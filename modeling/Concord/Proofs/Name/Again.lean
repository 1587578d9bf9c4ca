import Concord.Proofs.Name.Letters

/-!
# Concord.Proofs.Name.Again

The compared form of a compared form.  Small letters are small for good: what a mapping to lower
case ends up at is no capital and is mapped no further.  So a second pass can only put in
underscores, and it does so in front of the few capitals that have no small letter, where their
neighbours have become small in the first pass.

* `normalizeChars_eq_self_iff` — a compared form is its own compared form exactly if no character
  begins a word in it (`IsSettled`);
* `isSettled_separate` — behind the underscores that are put in, no character begins a word;
* `normalize_again` — so a third pass changes nothing, and a second one does only on account of a
  capital without a small letter.
-/

namespace Concord.Name

open Text

/-! ## Sets of code points as numbers

Two sets are told apart by one operation on two numbers with a bit for every member, which takes a
small part of the time that a comparison of run with run takes. -/

/-- The members of a run. -/
def points (r : Run) : List Nat := List.range' r.first ((r.last - r.first) / r.step + 1) r.step

/-- The number with the given bits. -/
def bits (ns : List Nat) : Nat := ns.foldr (fun n b => 1 <<< n ||| b) 0

/-- A point of a run stands in its list. -/
theorem mem_points {r : Run} {n : Nat} (h : r.has n = true) : n ∈ points r := by
  simp only [Run.has, Bool.and_eq_true, decide_eq_true_eq, beq_iff_eq] at h
  obtain ⟨⟨first, last⟩, step⟩ := h
  refine List.mem_range'.2 ⟨(n - r.first) / r.step, ?_, ?_⟩
  · exact Nat.lt_succ_of_le (Nat.div_le_div_right (by omega))
  · rw [Nat.mul_div_cancel' (Nat.dvd_of_mod_eq_zero step)]
    omega

/-- A member of a list has its bit. -/
theorem testBit_bits {ns : List Nat} {n : Nat} (h : n ∈ ns) : (bits ns).testBit n = true := by
  induction ns with
  | nil => cases h
  | cons m ns ih =>
    rw [bits, List.foldr_cons, Nat.testBit_or, Bool.or_eq_true]
    rcases List.mem_cons.1 h with rfl | mem
    · exact .inl (by simp [Nat.testBit_shiftLeft])
    · exact .inr (ih mem)

/-- Lists whose bits have nothing in common share no member. -/
theorem not_mem_of_bits {ms ns : List Nat} (h : bits ms &&& bits ns = 0) {n : Nat} (hm : n ∈ ms) :
    n ∉ ns := by
  intro hn
  have both : (bits ms &&& bits ns).testBit n = true := by
    rw [Nat.testBit_and, testBit_bits hm, testBit_bits hn, Bool.and_self]
  rw [h, Nat.zero_testBit] at both
  cases both

/-! ## Small letters -/

/-- Where the mapping to lower case ends up. -/
def images : List Nat :=
  CaseTable.toLower.flatMap fun s => (points s.run).map fun n => (n + s.distance).toNat

/-- The capitals, and all else that has a small letter. -/
def unsettled : List Nat := (CaseTable.upper ++ CaseTable.toLower.map (·.run)).flatMap points

/-- No small letter is a capital, and none has another small letter. -/
theorem images_apart : bits images &&& bits unsettled = 0 := by
  decide +kernel

theorem mem_unsettled_of_isUpper {c : Char} (h : isUpper c = true) : c.toNat ∈ unsettled := by
  obtain ⟨r, mem, has⟩ := exists_has_of_mem h
  exact List.mem_flatMap.2 ⟨r, List.mem_append_left _ mem, mem_points has⟩

/-- A character that lowering changes is unsettled. -/
theorem mem_unsettled_of_image? {n m : Nat} (h : Shift.image? n CaseTable.toLower = some m) :
    n ∈ unsettled := by
  obtain ⟨s, mem, has, -⟩ := exists_has_of_image? h
  exact List.mem_flatMap.2
    ⟨s.run, List.mem_append_right _ (List.mem_map_of_mem mem), mem_points has⟩

/-- A character that lower case leaves as it is, wherever it stands. -/
def IsSmall (c : Char) : Prop :=
  c ≠ 'Σ' ∧ mapCase CaseTable.toLower CaseTable.toLowerMany c = [c]

/-- An image is the number of a character. -/
theorem toNat_of_image? {n m : Nat} (h : Shift.image? n CaseTable.toLower = some m) :
    (Char.ofNat m).toNat = m := by
  by_cases valid : m.isValidChar
  · rw [Char.ofNat, dif_pos valid]
    rfl
  · have named := isNameChar_of_image? h
    rw [Char.ofNat, dif_neg valid] at named
    exact absurd named (by decide)

/-- The only character with several small letters is a capital. -/
theorem lookup_toLowerMany {c : Char} (h : isUpper c = false) :
    CaseTable.toLowerMany.lookup c.toNat = none := by
  have dotted : isUpper (Char.ofNat 0x130) = true := rfl
  rw [CaseTable.toLowerMany, List.lookup_cons, List.lookup_nil]
  split
  · rename_i same
    have : c = Char.ofNat 0x130 := by
      rw [← beq_iff_eq.1 same, Char.ofNat_toNat]
    rw [this, dotted] at h
    cases h
  · rfl

/-- A character that is no capital and that lowering leaves alone is small. -/
theorem isSmall_of_not_isUpper {c : Char} (h : isUpper c = false)
    (stays : Shift.image? c.toNat CaseTable.toLower = none) : IsSmall c := by
  refine ⟨?_, ?_⟩
  · rintro rfl
    exact absurd h (by decide)
  · rw [mapCase, lookup_toLowerMany h, stays]

/-- The image of a character is small and no capital. -/
theorem isSmall_of_image? {n m : Nat} (h : Shift.image? n CaseTable.toLower = some m) :
    isUpper (Char.ofNat m) = false ∧ IsSmall (Char.ofNat m) := by
  obtain ⟨s, mem, has, rfl⟩ := exists_has_of_image? h
  have image : (n + s.distance).toNat ∈ images :=
    List.mem_flatMap.2 ⟨s, mem, List.mem_map.2 ⟨n, mem_points has, rfl⟩⟩
  have settled := not_mem_of_bits images_apart image
  have code := toNat_of_image? h
  have small : isUpper (Char.ofNat (n + s.distance).toNat) = false := by
    rw [← Bool.not_eq_true]
    exact fun capital => settled (code ▸ mem_unsettled_of_isUpper capital)
  refine ⟨small, isSmall_of_not_isUpper small ?_⟩
  rw [code, ← Option.not_isSome_iff_eq_none, Option.isSome_iff_exists]
  rintro ⟨m, again⟩
  exact settled (mem_unsettled_of_image? again)

/-- The capitals that have no small letter. -/
def isBareCapital (c : Char) : Bool :=
  isUpper c && mapCase CaseTable.toLower CaseTable.toLowerMany c == [c]

/-- What lower case is made of: small characters, of which only bare capitals are capitals. -/
theorem isSmall_of_mem_lowerChar {before after : List Char} {c d : Char}
    (h : d ∈ lowerChar before c after) :
    IsSmall d ∧ (isBareCapital c = false → isUpper d = false) := by
  have many : ∀ image ∈ CaseTable.toLowerMany, ∀ m ∈ image.2,
      isUpper (Char.ofNat m) = false ∧
        Shift.image? (Char.ofNat m).toNat CaseTable.toLower = none := by
    decide +kernel
  have sigmas : isUpper 'ς' = false ∧ isUpper 'σ' = false ∧
      Shift.image? 'ς'.toNat CaseTable.toLower = none ∧
      Shift.image? 'σ'.toNat CaseTable.toLower = none := by
    decide +kernel
  rw [lowerChar] at h
  split at h
  · split at h
    · rw [List.mem_singleton.1 h]
      exact ⟨isSmall_of_not_isUpper sigmas.1 sigmas.2.2.1, fun _ => sigmas.1⟩
    · rw [List.mem_singleton.1 h]
      exact ⟨isSmall_of_not_isUpper sigmas.2.1 sigmas.2.2.2, fun _ => sigmas.2.1⟩
  · rename_i other
    rw [mapCase] at h
    split at h
    · rename_i image lookup
      obtain ⟨m, hm, rfl⟩ := List.mem_map.1 h
      obtain ⟨front, behind, table, -⟩ := List.lookup_eq_some_iff.1 lookup
      have small := many (c.toNat, image) (table ▸ by simp) m hm
      exact ⟨isSmall_of_not_isUpper small.1 small.2, fun _ => small.1⟩
    · rename_i single
      split at h
      · rename_i m image
        rw [List.mem_singleton.1 h]
        exact ⟨(isSmall_of_image? image).2, fun _ => (isSmall_of_image? image).1⟩
      · rename_i stays
        obtain rfl := List.mem_singleton.1 h
        have same : mapCase CaseTable.toLower CaseTable.toLowerMany d = [d] := by
          rw [mapCase, single, stays]
        refine ⟨⟨other, same⟩, fun mapped => ?_⟩
        simpa [isBareCapital, same] using mapped

/-! ## Where words begin -/

/-- Whether no character begins a word in a text. -/
def IsSettled (s : List Char) : Prop :=
  ∀ front p c r, s = front ++ p :: c :: r → beginsWord p c r.head? = false

/-- A text is settled if no word begins at its second character and the rest is settled. -/
theorem isSettled_cons_cons {p c : Char} {r : List Char} :
    IsSettled (p :: c :: r) ↔ beginsWord p c r.head? = false ∧ IsSettled (c :: r) := by
  constructor
  · intro h
    refine ⟨h [] p c r rfl, fun front p' c' r' split => ?_⟩
    exact h (p :: front) p' c' r' (by rw [split, List.cons_append])
  · rintro ⟨here, later⟩ front p' c' r' split
    cases front with
    | nil =>
      cases split
      exact here
    | cons q front =>
      rw [List.cons_append, List.cons.injEq] at split
      exact later front p' c' r' split.2

/-- A text of one character is settled. -/
theorem isSettled_singleton (c : Char) : IsSettled [c] := by
  intro front p d r split
  have := congrArg List.length split
  simp at this
  omega

/-- Separating words shortens nothing. -/
theorem length_le_length_separate (prev : Option Char) (s : List Char) :
    s.length ≤ (separate prev s).length := by
  induction s generalizing prev with
  | nil => exact Nat.le_refl _
  | cons c r ih =>
    have := ih (some c)
    rw [separate]
    split
    · simp only [List.length_cons]
      omega
    · simp only [List.length_cons]
      omega

/-- Nothing is put into a text behind `p` exactly if no character begins a word there. -/
theorem separate_eq_self_iff (p : Char) (s : List Char) :
    separate (some p) s = s ↔ IsSettled (p :: s) := by
  induction s generalizing p with
  | nil => exact iff_of_true rfl (isSettled_singleton p)
  | cons c r ih =>
    rw [isSettled_cons_cons, separate, Option.any_some]
    by_cases begins : beginsWord p c r.head? = true
    · rw [if_pos begins, begins]
      refine iff_of_false (fun same => ?_) fun h => Bool.noConfusion h.1
      have longer := length_le_length_separate (some c) r
      have := congrArg List.length same
      simp only [List.length_cons] at this
      omega
    · rw [if_neg begins, List.cons.injEq, ih, Bool.not_eq_true] at *
      exact ⟨fun h => ⟨begins, h.2⟩, fun h => ⟨rfl, h.2⟩⟩

/-- Separating changes nothing exactly if the text is settled. -/
theorem separate_none_eq_self_iff (s : List Char) : separate none s = s ↔ IsSettled s := by
  cases s with
  | nil => exact iff_of_true rfl fun front p c r split => by simp at split
  | cons c r =>
    rw [separate_none_cons, List.cons.injEq, separate_eq_self_iff]
    exact ⟨fun h => h.2, fun h => ⟨rfl, h⟩⟩

/-- A separated text begins as before, or with an underscore. -/
theorem head?_separate (prev : Option Char) (s : List Char) :
    (separate prev s).head? = s.head? ∨ (separate prev s).head? = some '_' := by
  cases s with
  | nil => exact .inl rfl
  | cons c r =>
    rw [separate]
    split
    · exact .inr rfl
    · exact .inl rfl

/-- An underscore in the place of the next character begins no word. -/
theorem beginsWord_of_underscore {p c : Char} {next : Option Char}
    (h : beginsWord p c next = false) : beginsWord p c (some '_') = false := by
  have small : isLower '_' = false := rfl
  simp only [beginsWord, Option.any_some, small, Bool.and_false, Bool.or_false,
    Bool.and_eq_false_iff, Bool.or_eq_false_iff] at h ⊢
  exact h.imp_right And.left

/-- **Behind the underscores that are put in, no character begins a word.** -/
theorem isSettled_separate (p : Char) (s : List Char) : IsSettled (p :: separate (some p) s) := by
  induction s generalizing p with
  | nil => exact isSettled_singleton p
  | cons c r ih =>
    rw [separate, Option.any_some]
    split
    · have underscore : isUpper '_' = false := rfl
      refine isSettled_cons_cons.2 ⟨?_, isSettled_cons_cons.2 ⟨?_, ih c⟩⟩
      · rw [beginsWord, underscore, Bool.false_and, Bool.false_and]
      · rw [beginsWord, decide_eq_false (by simp), Bool.and_false, Bool.false_and]
    · rename_i none_begins
      rw [Bool.not_eq_true] at none_begins
      refine isSettled_cons_cons.2 ⟨?_, ih c⟩
      rcases head?_separate (some c) r with same | underscore
      · rw [same]
        exact none_begins
      · rw [underscore]
        exact beginsWord_of_underscore none_begins

/-- Separating puts in underscores only. -/
theorem mem_of_mem_separate {prev : Option Char} {s : List Char} {d : Char}
    (h : d ∈ separate prev s) : d = '_' ∨ d ∈ s := by
  induction s generalizing prev with
  | nil => exact .inr h
  | cons c r ih =>
    have later (mem : d ∈ separate (some c) r) : d = '_' ∨ d ∈ c :: r :=
      (ih mem).imp_right (List.mem_cons_of_mem c)
    rw [separate] at h
    split at h
    · simp only [List.mem_cons] at h
      rcases h with rfl | rfl | mem
      · exact .inl rfl
      · exact .inr List.mem_cons_self
      · exact later mem
    · rcases List.mem_cons.1 h with rfl | mem
      · exact .inr List.mem_cons_self
      · exact later mem

/-! ## Compared forms of compared forms -/

/-- A normalized name is in small characters. -/
theorem isSmall_of_mem_normalizeChars {s : List Char} : ∀ d ∈ normalizeChars s, IsSmall d := by
  intro d hd
  obtain ⟨before, c, after, -, hd⟩ := exists_of_mem_lowerAfter hd
  exact (isSmall_of_mem_lowerChar hd).1

/-- The compared form of a small text: underscores are put in, and that is all. -/
theorem normalizeChars_of_isSmall {s : List Char} (h : ∀ c ∈ s, IsSmall c) :
    normalizeChars s = separate none s := by
  refine lowerAfter_eq_self fun d hd => ?_
  rcases mem_of_mem_separate hd with rfl | mem
  · exact ⟨by decide, rfl⟩
  · exact h d mem

/-- A small text is its own compared form exactly if no character begins a word in it. -/
theorem normalizeChars_eq_self_iff {s : List Char} (h : ∀ c ∈ s, IsSmall c) :
    normalizeChars s = s ↔ IsSettled s := by
  rw [normalizeChars_of_isSmall h, separate_none_eq_self_iff]

/-- Where all capitals have small letters, no capitals are left. -/
theorem isSettled_normalizeChars {s : List Char} (h : ∀ c ∈ s, isBareCapital c = false) :
    IsSettled (normalizeChars s) := by
  intro front p d r split
  have mem : d ∈ normalizeChars s := by
    rw [split]
    simp
  obtain ⟨before, c, after, hc, hd⟩ := exists_of_mem_lowerAfter mem
  have mapped : isBareCapital c = false := by
    rcases mem_of_mem_separate hc with rfl | hc
    · rfl
    · exact h c hc
  rw [beginsWord, (isSmall_of_mem_lowerChar hd).2 mapped, Bool.false_and, Bool.false_and]

/-- A name normalized twice is settled. -/
theorem isSettled_normalizeChars_normalizeChars (s : List Char) :
    IsSettled (normalizeChars (normalizeChars s)) := by
  rw [normalizeChars_of_isSmall isSmall_of_mem_normalizeChars]
  cases normalizeChars s with
  | nil => exact (separate_none_eq_self_iff []).1 rfl
  | cons c r =>
    rw [separate_none_cons]
    exact isSettled_separate c r

/-- **A second pass changes a compared form exactly if a character begins a word in it, and a third
pass changes nothing.  Where every capital of a name has a small letter, the second pass changes
nothing either.** -/
theorem normalize_again (s : String) :
    (normalize (normalize s) = normalize s ↔ IsSettled (normalize s).toList) ∧
    normalize (normalize (normalize s)) = normalize (normalize s) ∧
    ((∀ c ∈ s.toList, isBareCapital c = false) → normalize (normalize s) = normalize s) := by
  have settles (t : String) (small : ∀ c ∈ t.toList, IsSmall c) :
      normalize t = t ↔ IsSettled t.toList := by
    rw [← normalizeChars_eq_self_iff small, normalize, ← String.toList_inj, String.toList_ofList]
  have small (t : String) : ∀ c ∈ (normalize t).toList, IsSmall c := by
    rw [normalize, String.toList_ofList]
    exact isSmall_of_mem_normalizeChars
  refine ⟨settles _ (small s), (settles _ (small _)).2 ?_, fun h => (settles _ (small s)).2 ?_⟩
  · rw [normalize, normalize, String.toList_ofList, String.toList_ofList]
    exact isSettled_normalizeChars_normalizeChars s.toList
  · rw [normalize, String.toList_ofList]
    exact isSettled_normalizeChars h

/-- A capital without a small letter stands behind another capital at first, and behind a small
letter in the second pass. -/
theorem normalize_again_ne : normalize (normalize "A𝐀") ≠ normalize "A𝐀" := by
  decide +kernel

end Concord.Name
