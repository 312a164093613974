-- JSON values as text: compact, or with two blanks of indentation for
-- each level.
import SceneMask.Json.Basic
import SceneMask.Number.Shortest

namespace SceneMask.Json

/-! ## Numbers -/

/-- The shortest digits that read back; of two equally near the even one.
Positional from `10^-5` up to below `10^16`, with at least one digit after
the point, else with an exponent after one leading digit. -/
def decimalText (d : Decimal) : List Char :=
  let ds := digits d.coefficient
  let leading : Int := d.exponent + ds.length - 1
  if -5 ≤ leading ∧ leading < 16 then
    if 0 ≤ d.exponent then d.positional ++ ['.', '0'] else d.positional
  else
    let mantissa := match ds with
      | first :: second :: rest => first :: '.' :: second :: rest
      | _ => ds
    let sign := if leading < 0 then '-' else '+'
    mantissa ++ 'e' :: sign :: digits leading.natAbs

def realText : Double → List Char
  | .finite negative rank =>
    let text :=
      if rank.val = 0 then ['0', '.', '0'] else decimalText (Format.double.shortest .even rank)
    if negative then '-' :: text else text
  | _ => "null".toList

def numberText : JsonNumber → List Char
  | .whole n _ => showInt n
  | .real x _ => realText x

/-! ## Strings -/

/-- Two hexadecimal digits, lower case. -/
def hexPair (n : Nat) : List Char := [Nat.digitChar (n / 16), Nat.digitChar (n % 16)]

def escapeChar (c : Char) : List Char :=
  if c = '"' then ['\\', '"']
  else if c = '\\' then ['\\', '\\']
  else if c = '\x08' then ['\\', 'b']
  else if c = '\x0c' then ['\\', 'f']
  else if c = '\n' then ['\\', 'n']
  else if c = '\r' then ['\\', 'r']
  else if c = '\t' then ['\\', 't']
  else if c.toNat < 0x20 then ['\\', 'u', '0', '0'] ++ hexPair c.toNat
  else [c]

def stringText (s : String) : List Char := '"' :: (s.toList.flatMap escapeChar ++ ['"'])

/-! ## Layout -/

/-- Where the line breaks go: nowhere, or before every item, at a depth. -/
inductive Layout where
  | compact
  | indented (depth : Nat)

namespace Layout

def deeper : Layout → Layout
  | compact => compact
  | indented depth => indented (depth + 1)

def lineBreak : Layout → List Char
  | compact => []
  | indented depth => '\n' :: List.replicate (2 * depth) ' '

def colon : Layout → List Char
  | compact => [':']
  | indented _ => [':', ' ']

end Layout

mutual

def text (layout : Layout) : Json → List Char
  | null => "null".toList
  | bool b => if b then "true".toList else "false".toList
  | number n => numberText n
  | string s => stringText s
  | array [] => ['[', ']']
  | array (item :: rest) =>
    '[' :: layout.deeper.lineBreak ++ text layout.deeper item ++ restText layout.deeper rest
      ++ layout.lineBreak ++ [']']
  | object [] => ['\x7b', '\x7d']
  | object ((key, item) :: rest) =>
    '\x7b' :: layout.deeper.lineBreak ++ stringText key ++ layout.deeper.colon
      ++ text layout.deeper item ++ restEntriesText layout.deeper rest
      ++ layout.lineBreak ++ ['\x7d']

/-- The items after the first one, each after a comma. -/
def restText (layout : Layout) : List Json → List Char
  | [] => []
  | item :: rest => ',' :: layout.lineBreak ++ text layout item ++ restText layout rest

def restEntriesText (layout : Layout) : List (String × Json) → List Char
  | [] => []
  | (key, item) :: rest =>
    ',' :: layout.lineBreak ++ stringText key ++ layout.colon ++ text layout item
      ++ restEntriesText layout rest

end

def compact (json : Json) : String := String.ofList (json.text .compact)

def pretty (json : Json) : String := String.ofList (json.text (.indented 0))

/-! ## Order of keys -/

mutual

/-- The same value with the entries of all objects in order of their
keys. -/
def sortKeys : Json → Json
  | array items => array (sortItems items)
  | object entries => ofMap (.ofList (sortEntries entries))
  | json => json

def sortItems : List Json → List Json
  | [] => []
  | item :: rest => item.sortKeys :: sortItems rest

def sortEntries : List (String × Json) → List (String × Json)
  | [] => []
  | (key, item) :: rest => (key, item.sortKeys) :: sortEntries rest

end

theorem sortEntries_eq_map (entries : List (String × Json)) :
    sortEntries entries = entries.map fun entry => (entry.1, entry.2.sortKeys) := by
  induction entries with
  | nil => simp [sortEntries]
  | cons head rest ih => simp [sortEntries, ih]

theorem lookup_sortEntries (entries : List (String × Json)) (key : String) :
    (sortEntries entries).lookup key = (entries.lookup key).map sortKeys := by
  induction entries with
  | nil => simp [sortEntries]
  | cons head rest ih =>
    obtain ⟨k, v⟩ := head
    rw [sortEntries, KeyMap.lookup_entry, KeyMap.lookup_entry, ih]
    split <;> rfl

/-- Without repeated keys, sorting moves the values and loses none. -/
theorem get?_sortKeys {entries : List (String × Json)} (h : (entries.map Prod.fst).Nodup)
    (key : String) :
    (object entries).sortKeys.get? key = ((object entries).get? key).map sortKeys := by
  have hsorted : ((sortEntries entries).map Prod.fst).Nodup := by
    rw [sortEntries_eq_map, List.map_map]
    exact h
  rw [sortKeys]
  show (KeyMap.ofList (sortEntries entries)).get? key = _
  rw [KeyMap.get?_ofList_of_nodup hsorted, lookup_sortEntries]
  rfl

/-- A map of sorted values is sorted. -/
theorem sortKeys_ofMap {map : KeyMap Json}
    (h : ∀ entry ∈ map.entries, entry.2.sortKeys = entry.2) :
    (ofMap map).sortKeys = ofMap map := by
  have hentries : sortEntries map.entries = map.entries := by
    have hid : ∀ entry ∈ map.entries, (entry.1, entry.2.sortKeys) = id entry := by
      intro entry hmem
      rw [h entry hmem]
      rfl
    rw [sortEntries_eq_map, List.map_congr_left hid, List.map_id]
  show (object map.entries).sortKeys = _
  rw [sortKeys, hentries, KeyMap.ofList_entries]

theorem sortKeys_real (x : Double) : (real x).sortKeys = real x := by
  unfold real
  split <;> simp [sortKeys]

theorem sortKeys_natural (n : Nat) : (natural n).sortKeys = natural n := by
  unfold natural
  split
  · simp [sortKeys]
  · exact sortKeys_real _

end SceneMask.Json
