-- The laws of decoding. A decoded raster keeps the number of every sample,
-- whether or not its type was promoted, and filling it writes the number
-- of the fill into the masked samples and nothing else.
import Mathlib
import SceneMask.Proofs.Promotion
import SceneMask.Raster

namespace SceneMask

/-! ## Masks -/

/-- The items of equal blocks: the block first, then the place in it. -/
theorem getElem?_flatten_of_length {α : Type} {blocks : List (List α)} {n : Nat}
    (h : ∀ block ∈ blocks, block.length = n) (b : Nat) {i : Nat} (hi : i < n) :
    blocks.flatten[b * n + i]? = blocks[b]?.bind (·[i]?) := by
  induction blocks generalizing b with
  | nil => simp
  | cons block rest ih =>
    obtain ⟨hblock, hrest⟩ := List.forall_mem_cons.1 h
    rw [List.flatten_cons]
    cases b with
    | zero =>
      rw [Nat.zero_mul, Nat.zero_add, List.getElem?_append_left (by omega)]
      rfl
    | succ b =>
      have hnext : (b + 1) * n + i - block.length = b * n + i := by
        rw [Nat.succ_mul, hblock]
        omega
      rw [List.getElem?_append_right (by rw [Nat.succ_mul]; omega), hnext, ih hrest]
      rfl

/-- A block is cut out again at its place. -/
theorem slice_flatten_of_length {α : Type} {blocks : List (List α)} {n : Nat}
    (h : ∀ block ∈ blocks, block.length = n) {b : Nat} {block : List α}
    (hb : blocks[b]? = some block) : (blocks.flatten.drop (b * n)).take n = block := by
  have hlength := h block (List.mem_of_getElem? hb)
  apply List.ext_getElem?
  intro i
  rw [List.getElem?_take, List.getElem?_drop]
  by_cases hi : i < n
  · rw [if_pos hi, getElem?_flatten_of_length h b hi, hb, Option.bind_some]
  · rw [if_neg hi, List.getElem?_eq_none (by omega)]

theorem getElem?_flatten_replicate {α : Type} (n : Nat) (xs : List α) {i : Nat}
    (h : i < n * xs.length) : (List.replicate n xs).flatten[i]? = xs[i % xs.length]? := by
  have hplace : i % xs.length < xs.length := Nat.mod_lt _ (Nat.pos_of_lt_mul_left h)
  have hblock : i / xs.length < n := Nat.div_lt_of_lt_mul (by rwa [Nat.mul_comm])
  have hlength : ∀ block ∈ List.replicate n xs, block.length = xs.length := by
    intro block hmem
    rw [List.eq_of_mem_replicate hmem]
  have hflatten := getElem?_flatten_of_length hlength (i / xs.length) hplace
  rwa [Nat.div_add_mod', List.getElem?_replicate_of_lt hblock, Option.bind_some] at hflatten

/-- A pixel in the order of rows is one of the plane, and one of a band is one of
the raster. -/
theorem pixel_lt {height width row column : Nat} (hrow : row < height) (hcolumn : column < width) :
    row * width + column < height * width := by
  have hrows : (row + 1) * width ≤ height * width := Nat.mul_le_mul_right _ hrow
  rw [Nat.succ_mul] at hrows
  omega

namespace Raster

/-- The parts of a raster have the sizes that its description gives. -/
structure Sized (raster : Raster) : Prop where
  count_pos : 0 < raster.count
  outside_length : raster.outside.length = raster.plane
  samples_size : raster.samples.size = raster.count * raster.plane

theorem length_mask {raster : Raster} (h : raster.Sized) :
    raster.mask.length = raster.count * raster.plane := by
  simp [mask, h.outside_length]

theorem getElem?_mask {raster : Raster} (h : raster.Sized) {i : Nat}
    (hi : i < raster.count * raster.plane) :
    raster.mask[i]? = raster.outside[i % raster.plane]? := by
  rw [← h.outside_length] at hi ⊢
  exact getElem?_flatten_replicate _ _ hi

/-- Filling writes the number of the fill into the masked places and keeps
the number of every other sample. -/
theorem exacts_filled {raster : Raster} (h : raster.samples.type.holds raster.fill = true) :
    raster.filled.exacts = raster.samples.exacts.zipWith
      (fun sample masked => if masked then raster.fill.exact else sample) raster.mask := by
  simp only [filled, Samples.exacts, Samples.ofDoubles, Samples.toDoubles, List.map_zipWith,
    List.zipWith_map_left]
  congr 1
  funext v masked
  cases masked with
  | true => exact SampleType.exact_ofDouble_fill h
  | false =>
    have hv := SampleType.exact_toDouble raster.samples.type v
    exact (SampleType.exact_ofDouble ⟨v, hv.symm⟩).trans hv

theorem size_filled {raster : Raster} (h : raster.Sized) :
    raster.filled.size = raster.count * raster.plane := by
  simp [filled, Samples.ofDoubles, Samples.size, length_mask h]
  exact h.samples_size.ge

end Raster

/-! ## Decoding -/

namespace Crop

/-- The sizes of the array give the number of samples and are no more than
the machine can count. -/
def ShapeFits (crop : Crop) (bands height width : Nat) : Prop :=
  ((product? bands height).bind fun n => product? n width) = some crop.samples.size

theorem product?_of_lt {a b : Nat} (h : a * b < 2 ^ 64) : product? a b = some (a * b) := if_pos h

theorem shapeFits_iff_products {crop : Crop} {bands height width : Nat} :
    crop.ShapeFits bands height width ↔
      bands * height < 2 ^ 64 ∧ bands * height * width < 2 ^ 64 ∧
        bands * height * width = crop.samples.size := by
  unfold ShapeFits
  by_cases hrows : bands * height < 2 ^ 64
  · rw [product?_of_lt hrows, Option.bind_some]
    by_cases hsize : bands * height * width < 2 ^ 64
    · rw [product?_of_lt hsize, Option.some.injEq]
      exact ⟨fun h => ⟨hrows, hsize, h⟩, fun h => h.2.2⟩
    · have hnone : product? (bands * height) width = none := if_neg hsize
      rw [hnone]
      exact ⟨fun h => (nomatch h), fun h => absurd h.2.1 hsize⟩
  · have hnone : product? bands height = none := if_neg hrows
    rw [hnone]
    exact ⟨fun h => (nomatch h), fun h => absurd h.1 hrows⟩

theorem ShapeFits.size {crop : Crop} {bands height width : Nat}
    (h : crop.ShapeFits bands height width) : crop.samples.size = bands * height * width :=
  (shapeFits_iff_products.1 h).2.2.symm

/-- The raster of a crop once its sizes and its type are known. -/
def raster (crop : Crop) (declared : Option Fill) (bands height width : Nat) (type : SampleType) :
    Raster where
  samples := (crop.samples.slice 0 ((bands - 1) * (height * width))).cast type
  outside := (crop.samples.toDoubles.drop ((bands - 1) * (height * width))).map
    fun a => a.eqv (.zero false)
  count := bands - 1
  height
  width
  fill := declared.getD .undeclared
  bandNames := none

theorem decode_of_fits {crop : Crop} {bands height width : Nat} (declared : Option Fill)
    (hshape : crop.shape = [bands, height, width]) (hfits : crop.ShapeFits bands height width)
    (hbands : 2 ≤ bands) :
    crop.decode declared =
      (crop.samples.type.promote (declared.getD .undeclared)).map
        (crop.raster declared bands height width) := by
  have hfew : ¬ bands < 2 := by omega
  unfold ShapeFits at hfits
  unfold decode
  simp only [hshape, hfits, hfew, ne_eq, not_true, if_false]
  rfl

/-- A crop passes all checks of its shape, or it is refused. -/
theorem decode_cases (crop : Crop) (declared : Option Fill) :
    (∃ bands height width, crop.shape = [bands, height, width] ∧
      crop.ShapeFits bands height width ∧ 2 ≤ bands) ∨
    ∃ reason, crop.decode declared = .error (.typeCompatibility reason) := by
  unfold decode
  split
  · rename_i bands height width hshape
    split
    · exact Or.inr ⟨_, rfl⟩
    rename_i hfits
    split
    · exact Or.inr ⟨_, rfl⟩
    · exact Or.inl ⟨bands, height, width, hshape, not_not.1 hfits, by omega⟩
  · exact Or.inr ⟨_, rfl⟩

theorem decode_eq_ok_iff {crop : Crop} {declared : Option Fill} {result : Raster} :
    crop.decode declared = .ok result ↔
      ∃ bands height width type, crop.shape = [bands, height, width] ∧
        crop.ShapeFits bands height width ∧ 2 ≤ bands ∧
        crop.samples.type.promote (declared.getD .undeclared) = .ok type ∧
        crop.raster declared bands height width type = result := by
  constructor
  · intro h
    rcases crop.decode_cases declared with
      ⟨bands, height, width, hshape, hfits, hbands⟩ | ⟨reason, herror⟩
    · rw [decode_of_fits declared hshape hfits hbands, map_eq_ok] at h
      obtain ⟨type, hpromote, hraster⟩ := h
      exact ⟨bands, height, width, type, hshape, hfits, hbands, hpromote, hraster⟩
    · rw [herror] at h
      cases h
  · rintro ⟨bands, height, width, type, hshape, hfits, hbands, hpromote, rfl⟩
    rw [decode_of_fits declared hshape hfits hbands, hpromote]
    rfl

section Fields

variable {crop : Crop} {declared : Option Fill} {bands height width : Nat} {type : SampleType}

theorem raster_sized (declared : Option Fill) (type : SampleType)
    (hfits : crop.ShapeFits bands height width) (hbands : 2 ≤ bands) :
    (crop.raster declared bands height width type).Sized := by
  have hsize := hfits.size
  obtain ⟨n, rfl⟩ : ∃ n, bands = n + 1 := ⟨bands - 1, by omega⟩
  rw [Nat.mul_assoc, Nat.succ_mul] at hsize
  refine ⟨?_, ?_, ?_⟩
  · show 0 < n + 1 - 1
    omega
  · simp only [raster, Raster.plane, List.length_map, List.length_drop, Samples.length_toDoubles]
    rw [hsize, Nat.add_sub_cancel]
    omega
  · simp only [raster, Raster.plane, Samples.size_cast, Nat.add_sub_cancel]
    simp only [Samples.size] at hsize
    simp [Samples.slice, Samples.size, hsize]

@[simp] theorem type_raster :
    (crop.raster declared bands height width type).samples.type = type :=
  Samples.type_cast _ _

/-- Without a declared fill the fill is the number 0. -/
theorem exact_declared (declared : Option Fill) :
    (declared.getD .undeclared).exact = (declared.map Fill.exact).getD (.number 0) := by
  cases declared with
  | none => simp [Fill.undeclared, Fill.exact]
  | some fill => rfl

theorem eqv_zero (x : Double) : x.eqv (.zero false) = decide (x.exact = .number 0) := by
  rw [Bool.eq_iff_iff, Binary.eqv_iff (by decide), Binary.exact_zero (by decide),
    decide_eq_true_iff]
  refine ⟨And.left, fun h => ⟨h, ?_⟩⟩
  rintro rfl
  cases h

/-- A pixel is outside exactly if its alpha sample is the number zero. -/
theorem outside_raster :
    (crop.raster declared bands height width type).outside =
      (crop.samples.exacts.drop ((bands - 1) * (height * width))).map
        fun alpha => decide (alpha = .number 0) := by
  simp only [raster, ← Samples.map_exact_toDoubles, ← List.map_drop, List.map_map, eqv_zero]
  rfl

/-- The mask of a sample is decided by the alpha sample of its pixel. -/
theorem getElem?_mask_raster (declared : Option Fill) (type : SampleType)
    (hfits : crop.ShapeFits bands height width) (hbands : 2 ≤ bands) {i : Nat}
    (hi : i < (bands - 1) * (height * width)) :
    (crop.raster declared bands height width type).mask[i]? =
      crop.samples.exacts[(bands - 1) * (height * width) + i % (height * width)]?.map
        fun alpha => decide (alpha = .number 0) := by
  have h := Raster.getElem?_mask (raster_sized declared type hfits hbands)
    hi
  rw [outside_raster, List.getElem?_map, List.getElem?_drop] at h
  exact h

theorem exacts_raster
    (hpromote : crop.samples.type.promote (declared.getD .undeclared) = .ok type) :
    (crop.raster declared bands height width type).samples.exacts =
      crop.samples.exacts.take ((bands - 1) * (height * width)) := by
  set data := crop.samples.slice 0 ((bands - 1) * (height * width)) with hdata
  have hcast : (data.cast type).exacts = data.exacts :=
    Samples.exacts_cast (SampleType.contains_iff_has.2
      (SampleType.promote_eq_ok_iff.1 hpromote).1.samples)
  have hslice := crop.samples.exacts_slice 0 ((bands - 1) * (height * width))
  rw [List.drop_zero, ← hdata] at hslice
  exact hcast.trans hslice

/-- What the data and the filled data hold at a place. -/
theorem exacts_filled_raster (hfits : crop.ShapeFits bands height width) (hbands : 2 ≤ bands)
    (hpromote : crop.samples.type.promote (declared.getD .undeclared) = .ok type)
    {i : Nat} (hi : i < (bands - 1) * (height * width)) :
    ∃ sample alpha, crop.samples.exacts[i]? = some sample ∧
      crop.samples.exacts[(bands - 1) * (height * width) + i % (height * width)]? = some alpha ∧
      (crop.raster declared bands height width type).samples.exacts[i]? = some sample ∧
      (crop.raster declared bands height width type).filled.exacts[i]? = some
        (if alpha = .number 0 then (declared.map Fill.exact).getD (.number 0) else sample) := by
  have hsized := raster_sized declared type hfits hbands
  have hmask := getElem?_mask_raster declared type hfits hbands hi
  have hlen : i < (crop.raster declared bands height width type).mask.length := by
    rw [Raster.length_mask hsized]
    exact hi
  rw [List.getElem?_eq_getElem hlen] at hmask
  obtain ⟨alpha, halpha, hmasked⟩ := Option.map_eq_some_iff.1 hmask.symm
  have hsize : i < (crop.raster declared bands height width type).samples.exacts.length := by
    rw [Samples.length_exacts, hsized.samples_size]
    exact hi
  obtain ⟨sample, hsample⟩ : ∃ sample,
      (crop.raster declared bands height width type).samples.exacts[i]? = some sample :=
    ⟨_, List.getElem?_eq_getElem hsize⟩
  have hraw : crop.samples.exacts[i]? = some sample := by
    rw [exacts_raster hpromote, List.getElem?_take, if_pos hi] at hsample
    exact hsample
  have hholds : (crop.raster declared bands height width type).samples.type.holds
      (declared.getD .undeclared) = true := by
    rw [type_raster]
    exact SampleType.holds_iff_has.2 (SampleType.promote_eq_ok_iff.1 hpromote).1.fill
  refine ⟨sample, alpha, hraw, halpha, hsample, ?_⟩
  rw [Raster.exacts_filled hholds, List.getElem?_zipWith, hsample,
    List.getElem?_eq_getElem hlen]
  simp only [← hmasked, decide_eq_true_eq]
  rw [← exact_declared]
  rfl

end Fields

/-- Every raster that decoding returns has parts of the right sizes. -/
theorem decode_sized {crop : Crop} {declared : Option Fill} {raster : Raster}
    (h : crop.decode declared = .ok raster) : raster.Sized := by
  obtain ⟨bands, height, width, type, -, hfits, hbands, -, rfl⟩ := decode_eq_ok_iff.1 h
  exact raster_sized declared type hfits hbands

/-- A decoded raster has all bands of the crop but the alpha band, without
names. -/
theorem decode_shape {crop : Crop} {declared : Option Fill} {raster : Raster}
    (h : crop.decode declared = .ok raster) :
    crop.shape = [raster.count + 1, raster.height, raster.width] ∧ raster.bandNames = none := by
  obtain ⟨bands, height, width, type, hshape, -, hbands, -, rfl⟩ := decode_eq_ok_iff.1 h
  refine ⟨?_, rfl⟩
  show crop.shape = [bands - 1 + 1, height, width]
  rw [hshape, Nat.sub_add_cancel (by omega)]

/-! ## Samples without influence -/

/-- The other crop has the same alpha band, and the same samples in all
pixels inside the feature. -/
structure AgreesInside (crop other : Crop) (bands height width : Nat) : Prop where
  shape : other.shape = crop.shape
  type : other.samples.type = crop.samples.type
  size : other.samples.size = crop.samples.size
  alpha : ∀ i, (bands - 1) * (height * width) ≤ i → other.samples.get? i = crop.samples.get? i
  inside : ∀ i < (bands - 1) * (height * width),
    crop.samples.exacts[(bands - 1) * (height * width) + i % (height * width)]?
        ≠ some (.number 0) →
      other.samples.get? i = crop.samples.get? i

theorem AgreesInside.shapeFits {crop other : Crop} {bands height width : Nat}
    (h : crop.AgreesInside other bands height width) (hfits : crop.ShapeFits bands height width) :
    other.ShapeFits bands height width := by
  unfold ShapeFits at *
  rw [h.size, hfits]

theorem AgreesInside.outside_eq {crop other : Crop} {declared : Option Fill}
    {bands height width : Nat} {type : SampleType}
    (h : crop.AgreesInside other bands height width) :
    (other.raster declared bands height width type).outside =
      (crop.raster declared bands height width type).outside := by
  simp only [raster]
  congr 1
  apply List.ext_getElem?
  intro i
  simp only [List.getElem?_drop, Samples.getElem?_toDoubles]
  exact h.alpha _ (by omega)

theorem lt_of_getElem?_mask {crop : Crop} {declared : Option Fill} {bands height width : Nat}
    {type : SampleType} (hfits : crop.ShapeFits bands height width) (hbands : 2 ≤ bands)
    {i : Nat} {masked : Bool}
    (hi : (crop.raster declared bands height width type).mask[i]? = some masked) :
    i < (bands - 1) * (height * width) := by
  obtain ⟨hlt, -⟩ := List.getElem?_eq_some_iff.1 hi
  rwa [Raster.length_mask (raster_sized declared type hfits hbands)] at hlt

theorem exists_get?_raster {crop : Crop} (declared : Option Fill) {bands height width : Nat}
    (type : SampleType) (hfits : crop.ShapeFits bands height width) (hbands : 2 ≤ bands)
    {i : Nat} (hi : i < (bands - 1) * (height * width)) :
    ∃ x, (crop.raster declared bands height width type).samples.get? i = some x := by
  apply Samples.exists_get?
  rw [(raster_sized declared type hfits hbands).samples_size]
  exact hi

/-- Where no mask is, both rasters have the same sample. -/
theorem AgreesInside.get?_eq {crop other : Crop} {declared : Option Fill}
    {bands height width : Nat} {type : SampleType} (hfits : crop.ShapeFits bands height width)
    (hbands : 2 ≤ bands) (h : crop.AgreesInside other bands height width) {i : Nat}
    (hi : (crop.raster declared bands height width type).mask[i]? = some false) :
    (other.raster declared bands height width type).samples.get? i =
      (crop.raster declared bands height width type).samples.get? i := by
  have hsplit := lt_of_getElem?_mask hfits hbands hi
  rw [getElem?_mask_raster declared type hfits hbands hsplit] at hi
  obtain ⟨alpha, halpha, hdecide⟩ := Option.map_eq_some_iff.1 hi
  have hsame : other.samples.get? i = crop.samples.get? i := by
    apply h.inside i hsplit
    rw [halpha]
    simpa using hdecide
  simp only [raster, Samples.get?_cast, Samples.get?_slice, hsplit, if_true, hsame]
  rw [show (other.samples.slice _ _).type = _ from h.type]
  rfl

theorem AgreesInside.filled_eq {crop other : Crop} {declared : Option Fill}
    {bands height width : Nat} {type : SampleType} (hfits : crop.ShapeFits bands height width)
    (hbands : 2 ≤ bands) (h : crop.AgreesInside other bands height width) :
    (other.raster declared bands height width type).filled =
      (crop.raster declared bands height width type).filled := by
  have hmask : (other.raster declared bands height width type).mask =
      (crop.raster declared bands height width type).mask := by
    simp only [Raster.mask, h.outside_eq]
    rfl
  unfold Raster.filled
  congr 1
  · simp [raster]
  rw [hmask]
  apply List.ext_getElem?
  intro i
  simp only [List.getElem?_zipWith, Samples.getElem?_toDoubles]
  rcases hi : (crop.raster declared bands height width type).mask[i]? with _ | masked
  · simp
  cases masked with
  | true =>
    -- the samples may differ here, but there is one in both crops
    have hsplit := lt_of_getElem?_mask hfits hbands hi
    obtain ⟨x, hx⟩ := exists_get?_raster declared type hfits hbands hsplit
    obtain ⟨y, hy⟩ := exists_get?_raster declared type (h.shapeFits hfits) hbands hsplit
    rw [hx, hy]
    rfl
  | false =>
    rw [h.get?_eq hfits hbands hi]
    rfl

/-! ## The law -/

/-- Decoding and filling lose nothing. The samples of the raster are the
numbers of the crop, and a filled sample is the declared fill, or 0 where
none is declared, exactly where the alpha sample of its pixel is zero. So
two crops that differ only outside the feature are filled alike. -/
theorem decoding_and_filling_lose_nothing {crop : Crop} {declared : Option Fill}
    {raster : Raster} (h : crop.decode declared = .ok raster) :
    ∃ bands height width, crop.shape = [bands, height, width] ∧
      crop.samples.type.promote (declared.getD .undeclared) = .ok raster.description.type ∧
      raster.samples.type = raster.description.type ∧
      raster.filled.type = raster.description.type ∧
      raster.samples.size = (bands - 1) * (height * width) ∧
      raster.filled.size = (bands - 1) * (height * width) ∧
      (∀ i < (bands - 1) * (height * width), ∃ sample alpha,
        crop.samples.exacts[i]? = some sample ∧
        crop.samples.exacts[(bands - 1) * (height * width) + i % (height * width)]?
          = some alpha ∧
        raster.samples.exacts[i]? = some sample ∧
        raster.filled.exacts[i]? = some
          (if alpha = .number 0 then (declared.map Fill.exact).getD (.number 0) else sample)) ∧
      ∀ other, crop.AgreesInside other bands height width →
        ∃ raster', other.decode declared = .ok raster' ∧ raster'.filled = raster.filled := by
  obtain ⟨bands, height, width, type, hshape, hfits, hbands, hpromote, rfl⟩ :=
    decode_eq_ok_iff.1 h
  have hsized := raster_sized declared type hfits hbands
  have htype : (crop.raster declared bands height width type).description.type = type :=
    Samples.type_cast _ _
  refine ⟨bands, height, width, hshape, by rw [htype, hpromote], rfl, rfl, hsized.samples_size,
    Raster.size_filled hsized, ?_, ?_⟩
  · intro i hi
    exact exacts_filled_raster hfits hbands hpromote hi
  · intro other hother
    refine ⟨other.raster declared bands height width type, decode_eq_ok_iff.2 ?_,
      hother.filled_eq hfits hbands⟩
    exact ⟨bands, height, width, type, hother.shape.trans hshape, hother.shapeFits hfits, hbands,
      by rw [hother.type, hpromote], rfl⟩

/-- Two pixels of one byte, the second one outside the feature. -/
def twoBytes : Crop where
  samples := ⟨.integer .uint8,
    [⟨7, by decide⟩, ⟨200, by decide⟩, ⟨255, by decide⟩, ⟨0, by decide⟩]⟩
  shape := [2, 1, 2]

/-- Bytes do not hold the fill -1, so they become words of 16 bits. -/
theorem two_bytes_filled_with_minus_one :
    ∃ raster, twoBytes.decode (some (.int (-1))) = .ok raster ∧
      raster.description.type = .integer .int16 ∧
      raster.filled.exacts[0]? = some (.number 7) ∧
      raster.filled.exacts[1]? = some (.number (-1)) := by
  have hdecode : twoBytes.decode (some (.int (-1))) = .ok {
      samples := ⟨.integer .int16, [⟨7, by decide⟩, ⟨200, by decide⟩]⟩
      outside := [false, true]
      count := 1
      height := 1
      width := 2
      fill := .int (-1)
      bandNames := none } := by decide +kernel
  have hexacts : twoBytes.samples.exacts = [.number 7, .number 200, .number 255, .number 0] := by
    decide +kernel
  obtain ⟨bands, height, width, hshape, -, -, -, -, -, hat, -⟩ :=
    decoding_and_filling_lose_nothing hdecode
  obtain ⟨rfl, rfl, rfl⟩ : 2 = bands ∧ 1 = height ∧ 2 = width := by
    simpa [twoBytes] using hshape
  rw [hexacts] at hat
  refine ⟨_, hdecode, rfl, ?_, ?_⟩
  · obtain ⟨sample, alpha, hsample, halpha, -, hfilled⟩ := hat 0 (by decide)
    cases hsample
    cases halpha
    exact hfilled
  · obtain ⟨sample, alpha, -, halpha, -, hfilled⟩ := hat 1 (by decide)
    cases halpha
    exact hfilled

end Crop

end SceneMask
