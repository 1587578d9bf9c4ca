import Mathlib.Data.List.TakeWhile
import Mathlib.Tactic.MkIffOfInductiveProp
import Concord.Proofs.Name.Letters

/-!
# Concord.Proofs.Name.Conventions

Names made of plain words, written in all conventions.  A word is two or more small letters of
ASCII; with a single letter the end of a word could not be told from an abbreviation.

```
[parse, http, request]   parse_http_request   parseHttpRequest
                         PARSE_HTTP_REQUEST   ParseHttpRequest
```

* `normalizeChars_render` — all four have one compared form, the one with underscores;
* `words_render` — the words that were written are read off all four;
* `spellAs_write` — so each is turned into any other.
-/

namespace Concord.Name

open Text

/-! ## Words and how they are written -/

/-- A word: two or more small letters of ASCII. -/
structure Word where
  first : Char
  rest : List Char
  rest_ne_nil : rest ≠ []
  small : ∀ c ∈ first :: rest, isAsciiLower c = true

namespace Word

/-- The letters of a word. -/
def letters (w : Word) : List Char := w.first :: w.rest

/-- A word with a capital in front. -/
def capitalized (w : Word) : List Char := w.first.toUpper :: w.rest

end Word

/-- Words in a convention. -/
def Convention.render : Convention → List Word → List Char
  | camel, [] => []
  | camel, w :: ws => w.letters ++ ws.flatMap Word.capitalized
  | pascal, ws => ws.flatMap Word.capitalized
  | snake, ws => ['_'].intercalate (ws.map Word.letters)
  | screaming, ws => (['_'].intercalate (ws.map Word.letters)).map Char.toUpper

/-- The name that is written in a convention. -/
def Convention.write (convention : Convention) (ws : List Word) : String :=
  String.ofList (convention.render ws)

/-! ## Letters of ASCII -/

/-- Where all characters with several images stand beyond ASCII, the shifts decide within it. -/
theorem mapCase_of_shift {shifts : List Shift} {many : List (Nat × List Nat)} {letter : Char → Char}
    (beyond : many.all (128 ≤ ·.1) = true)
    (shift : ∀ n < 128, ((Shift.image? (Char.ofNat n).toNat shifts).map Char.ofNat).getD
      (Char.ofNat n) = letter (Char.ofNat n)) {c : Char} (ascii : c.toNat < 128) :
    mapCase shifts many c = [letter c] := by
  have single : many.lookup c.toNat = none := by
    rw [List.lookup_eq_none_iff]
    intro e he
    have := of_decide_eq_true (List.all_eq_true.1 beyond e he)
    simp only [bne_iff_ne]
    omega
  have image := of_ascii
    (P := fun c => ((Shift.image? c.toNat shifts).map Char.ofNat).getD c = letter c) shift ascii
  rw [mapCase, single]
  cases found : Shift.image? c.toNat shifts with
  | none => rwa [found, Option.map_none, Option.getD_none, ← List.singleton_inj] at image
  | some n => rwa [found, Option.map_some, Option.getD_some, ← List.singleton_inj] at image

/-- In ASCII, case is a matter of single letters. -/
theorem mapCase_of_ascii {c : Char} (ascii : c.toNat < 128) :
    mapCase CaseTable.toLower CaseTable.toLowerMany c = [c.toLower] ∧
      mapCase CaseTable.toUpper CaseTable.toUpperMany c = [c.toUpper] ∧
      mapCase CaseTable.toTitle CaseTable.toTitleMany c = [c.toUpper] :=
  ⟨mapCase_of_shift (by decide +kernel) (by decide +kernel) ascii,
    mapCase_of_shift (by decide +kernel) (by decide +kernel) ascii,
    mapCase_of_shift (by decide +kernel) (by decide +kernel) ascii⟩

/-- Lowering ASCII text is lowering it character by character. -/
theorem lowerAfter_of_ascii {before s : List Char} (ascii : ∀ c ∈ s, c.toNat < 128) :
    lowerAfter before s = s.map Char.toLower := by
  induction s generalizing before with
  | nil => rfl
  | cons c r ih =>
    have plain : c ≠ 'Σ' := by
      rintro rfl
      exact absurd (ascii _ List.mem_cons_self) (by decide)
    rw [lowerAfter, lowerChar, if_neg plain, (mapCase_of_ascii (ascii c List.mem_cons_self)).1,
      ih fun d hd => ascii d (List.mem_cons_of_mem _ hd)]
    rfl

/-- Raising ASCII text is raising it character by character. -/
theorem upper_of_ascii {s : List Char} (ascii : ∀ c ∈ s, c.toNat < 128) :
    upper s = s.map Char.toUpper := by
  induction s with
  | nil => rfl
  | cons c r ih =>
    rw [upper, List.flatMap_cons, (mapCase_of_ascii (ascii c List.mem_cons_self)).2.1, ← upper,
      ih fun d hd => ascii d (List.mem_cons_of_mem _ hd)]
    rfl

/-- What the passes over a name ask of a small letter of ASCII and of its capital. -/
@[mk_iff]
structure IsLetter (c : Char) : Prop where
  isLower : isLower c = true
  notUpper : isUpper c = false
  notAsciiUpper : isAsciiUpper c = false
  toLower : c.toLower = c
  ne_underscore : c ≠ '_'
  ascii : c.toNat < 128
  isNameChar : isNameChar c = true
  upper_isUpper : isUpper c.toUpper = true
  upper_notLower : Text.isLower c.toUpper = false
  upper_notDigit : isDigit c.toUpper = false
  upper_isAsciiUpper : isAsciiUpper c.toUpper = true
  upper_notAsciiLower : isAsciiLower c.toUpper = false
  upper_toLower : c.toUpper.toLower = c
  upper_ne_underscore : c.toUpper ≠ '_'
  upper_ascii : c.toUpper.toNat < 128

instance (c : Char) : Decidable (IsLetter c) := decidable_of_iff' _ (isLetter_iff c)

/-- What holds of the small letters of ASCII is checked by inspection. -/
theorem isLetter_of_isAsciiLower {c : Char} (h : isAsciiLower c = true) : IsLetter c := by
  have ascii : c.toNat < 128 := by
    rw [isAsciiLower, Bool.and_eq_true, decide_eq_true_eq, decide_eq_true_eq] at h
    have : c.toNat ≤ 'z'.toNat := h.2
    exact Nat.lt_of_le_of_lt this (by decide)
  exact of_ascii (P := fun c => isAsciiLower c = true → IsLetter c) (by decide +kernel) ascii h

namespace Word

variable (w : Word)

theorem isLetter_first : IsLetter w.first :=
  isLetter_of_isAsciiLower (w.small _ List.mem_cons_self)

theorem isLetter {c : Char} (h : c ∈ w.letters) : IsLetter c :=
  isLetter_of_isAsciiLower (w.small c h)

theorem isLetter_rest {c : Char} (h : c ∈ w.rest) : IsLetter c :=
  w.isLetter (List.mem_cons_of_mem _ h)

/-- A word ends with a small letter, also behind a capital. -/
theorem isLetter_last (c : Char) : IsLetter (w.rest.getLastD c) := by
  rw [List.getLastD_eq_getLast?, List.getLast?_eq_some_getLast w.rest_ne_nil, Option.getD_some]
  exact w.isLetter_rest (List.getLast_mem w.rest_ne_nil)

theorem map_toLower_rest : w.rest.map Char.toLower = w.rest :=
  (List.map_congr_left fun _ hc => (w.isLetter_rest hc).toLower).trans (List.map_id _)

theorem map_toLower_letters : w.letters.map Char.toLower = w.letters :=
  (List.map_congr_left fun _ hc => (w.isLetter hc).toLower).trans (List.map_id _)

theorem map_toLower_capitalized : w.capitalized.map Char.toLower = w.letters := by
  rw [capitalized, List.map_cons, w.isLetter_first.upper_toLower, map_toLower_rest, letters]

theorem map_toLower_map_toUpper : (w.letters.map Char.toUpper).map Char.toLower = w.letters := by
  rw [List.map_map]
  exact (List.map_congr_left fun _ hc => (w.isLetter hc).upper_toLower).trans (List.map_id _)

theorem underscore_not_mem : '_' ∉ w.letters :=
  fun h => (w.isLetter h).ne_underscore rfl

end Word

/-! ## The compared form -/

/-- Words joined by underscores are the first word and then each of the others behind one. -/
theorem intercalate_cons_flatMap (write : Word → List Char) (w : Word) (ws : List Word) :
    ['_'].intercalate ((w :: ws).map write) = write w ++ ws.flatMap fun w => '_' :: write w := by
  induction ws generalizing w with
  | nil => simp
  | cons v ws ih =>
    rw [List.map_cons, List.map_cons, List.intercalate_cons_cons, ← List.map_cons, ih,
      List.flatMap_cons, List.append_assoc]
    rfl

/-- Nothing is put between characters that are neither small letters nor digits. -/
theorem separate_of_notLower {prev : Option Char} {s : List Char}
    (h : ∀ c ∈ prev.toList ++ s, isLower c = false ∧ isDigit c = false) : separate prev s = s := by
  induction s generalizing prev with
  | nil => rfl
  | cons c r ih =>
    have none_begins : prev.any (beginsWord · c r.head?) = false := by
      cases prev with
      | none => rfl
      | some p =>
        have next : r.head?.any isLower = false := by
          cases r with
          | nil => rfl
          | cons d r => exact (h d (by simp)).1
        have before := h p (by simp)
        rw [Option.any_some, beginsWord, before.1, before.2, next, Bool.and_false, Bool.or_false,
          Bool.or_false, Bool.and_false]
    rw [separate, none_begins, if_neg Bool.false_ne_true]
    exact congrArg _ (ih fun d hd => h d (List.mem_append_right _ hd))

/-- Characters that are not capitals are never separated. -/
theorem separate_append {p : Char} {r s : List Char} (h : ∀ c ∈ r, isUpper c = false) :
    separate (some p) (r ++ s) = r ++ separate (some (r.getLastD p)) s := by
  induction r generalizing p with
  | nil => rfl
  | cons c r ih =>
    rw [List.cons_append, separate, Option.any_some, beginsWord, h c List.mem_cons_self,
      Bool.false_and, Bool.false_and, if_neg Bool.false_ne_true,
      ih fun d hd => h d (List.mem_cons_of_mem _ hd), List.cons_append, List.getLastD_cons]

/-- Every capital behind a small letter begins a word. -/
theorem separate_capitalized {p : Char} (h : IsLetter p) (ws : List Word) :
    separate (some p) (ws.flatMap Word.capitalized) =
      ws.flatMap fun w => '_' :: w.capitalized := by
  induction ws generalizing p with
  | nil => rfl
  | cons w ws ih =>
    have begins : beginsWord p w.first.toUpper (w.rest ++ ws.flatMap Word.capitalized).head? := by
      simp [beginsWord, w.isLetter_first.upper_isUpper, h.ne_underscore, h.isLower]
    rw [List.flatMap_cons, List.flatMap_cons, Word.capitalized, List.cons_append, separate,
      Option.any_some, begins, if_pos rfl,
      separate_append fun c hc => (w.isLetter_rest hc).notUpper, ih (w.isLetter_last _)]
    rfl

/-- Words with underscores in front, in lower case. -/
theorem map_toLower_flatMap (ws : List Word) :
    (ws.flatMap fun w => '_' :: w.capitalized).map Char.toLower =
      ws.flatMap fun w => '_' :: w.letters := by
  induction ws with
  | nil => rfl
  | cons w ws ih =>
    rw [List.flatMap_cons, List.map_append, List.map_cons, w.map_toLower_capitalized, ih]
    rfl

/-- A capitalized word is ASCII text. -/
theorem isAscii_capitalized {w : Word} {c : Char} (h : c ∈ w.capitalized) : c.toNat < 128 := by
  rcases List.mem_cons.1 h with rfl | h
  · exact w.isLetter_first.upper_ascii
  · exact (w.isLetter_rest h).ascii

/-- Capitalized words behind underscores are ASCII text. -/
theorem isAscii_flatMap {ws : List Word} {c : Char}
    (h : c ∈ ws.flatMap fun w => '_' :: w.capitalized) : c.toNat < 128 := by
  obtain ⟨w, -, h⟩ := List.mem_flatMap.1 h
  rcases List.mem_cons.1 h with rfl | h
  · decide
  · exact isAscii_capitalized h

/-- The characters of words that are joined by underscores. -/
theorem mem_render_snake {ws : List Word} {c : Char} (h : c ∈ Convention.snake.render ws) :
    c = '_' ∨ IsLetter c := by
  cases ws with
  | nil => cases h
  | cons w ws =>
    rw [Convention.render, intercalate_cons_flatMap, List.mem_append, List.mem_flatMap] at h
    rcases h with h | ⟨v, -, h⟩
    · exact .inr (w.isLetter h)
    · exact (List.mem_cons.1 h).imp_right v.isLetter

/-- Names in small letters and underscores stay as they are. -/
theorem normalizeChars_render_snake (ws : List Word) :
    normalizeChars (Convention.snake.render ws) = Convention.snake.render ws := by
  refine normalizeChars_eq_self (fun c hc => ?_) fun c hc => ?_
  · rcases mem_render_snake hc with rfl | letter
    · decide
    · exact letter.isNameChar
  · rcases mem_render_snake hc with rfl | letter
    · decide
    · exact letter.ascii

/-- Names in capitals and underscores become small. -/
theorem normalizeChars_render_screaming (ws : List Word) :
    normalizeChars (Convention.screaming.render ws) = Convention.snake.render ws := by
  have capital : ∀ c ∈ Convention.screaming.render ws, isLower c = false ∧ isDigit c = false ∧
      c.toNat < 128 := by
    intro c hc
    obtain ⟨d, hd, rfl⟩ := List.mem_map.1 hc
    rcases mem_render_snake hd with rfl | letter
    · decide
    · exact ⟨letter.upper_notLower, letter.upper_notDigit, letter.upper_ascii⟩
  have back : ((Convention.snake.render ws).map Char.toUpper).map Char.toLower =
      Convention.snake.render ws := by
    rw [List.map_map]
    refine (List.map_congr_left fun c hc => ?_).trans (List.map_id _)
    rcases mem_render_snake hc with rfl | letter
    · rfl
    · exact letter.upper_toLower
  rw [normalizeChars, separate_of_notLower fun c hc => ⟨(capital c hc).1, (capital c hc).2.1⟩, lower,
    lowerAfter_of_ascii fun c hc => (capital c hc).2.2]
  exact back

/-- Words behind a first one, which may begin with a capital. -/
theorem normalizeChars_capitalized {w : Word} {c : Char} (ascii : c.toNat < 128)
    (small : c.toLower = w.first) (ws : List Word) :
    normalizeChars (c :: (w.rest ++ ws.flatMap Word.capitalized)) =
      Convention.snake.render (w :: ws) := by
  have separated : separate none (c :: (w.rest ++ ws.flatMap Word.capitalized)) =
      c :: (w.rest ++ ws.flatMap fun w => '_' :: w.capitalized) := by
    rw [separate_none_cons, separate_append fun c hc => (w.isLetter_rest hc).notUpper,
      separate_capitalized (w.isLetter_last c)]
  have allAscii : ∀ d ∈ c :: (w.rest ++ ws.flatMap fun w => '_' :: w.capitalized),
      d.toNat < 128 := by
    intro d hd
    rcases List.mem_cons.1 hd with rfl | hd
    · exact ascii
    · rcases List.mem_append.1 hd with hd | hd
      · exact (w.isLetter_rest hd).ascii
      · exact isAscii_flatMap hd
  rw [normalizeChars, separated, lower, lowerAfter_of_ascii allAscii, List.map_cons, List.map_append,
    small, w.map_toLower_rest, map_toLower_flatMap, Convention.render, intercalate_cons_flatMap]
  rfl

/-- **Words have one compared form, however they are written.** -/
theorem normalizeChars_render (convention : Convention) (ws : List Word) :
    normalizeChars (convention.render ws) = Convention.snake.render ws := by
  cases convention with
  | snake => exact normalizeChars_render_snake ws
  | screaming => exact normalizeChars_render_screaming ws
  | camel =>
    cases ws with
    | nil => rfl
    | cons w ws => exact normalizeChars_capitalized w.isLetter_first.ascii w.isLetter_first.toLower ws
  | pascal =>
    cases ws with
    | nil => rfl
    | cons w ws =>
      exact normalizeChars_capitalized w.isLetter_first.upper_ascii w.isLetter_first.upper_toLower ws

/-! ## Words read back -/

/-- Capitalized words do not begin with a small letter. -/
theorem head?_flatMap_capitalized (ws : List Word) :
    ∀ c ∈ (ws.flatMap Word.capitalized).head?, isAsciiLower c = false := by
  intro c hc
  cases ws with
  | nil => cases hc
  | cons w ws =>
    cases hc
    exact w.isLetter_first.upper_notAsciiLower

/-- The small letters in front of a text that does not go on with one are those of the word. -/
theorem takeWhile_rest (w : Word) {s : List Char} (h : ∀ c ∈ s.head?, isAsciiLower c = false) :
    (w.rest ++ s).takeWhile isAsciiLower = w.rest ∧ (w.rest ++ s).dropWhile isAsciiLower = s := by
  have small : ∀ c ∈ w.rest, isAsciiLower c = true := fun c hc => w.small c (List.mem_cons_of_mem _ hc)
  rw [List.takeWhile_append_of_pos small, List.dropWhile_append_of_pos small]
  cases s with
  | nil => exact ⟨List.append_nil _, rfl⟩
  | cons c s =>
    have stops := h c rfl
    rw [List.takeWhile_cons_of_neg (by simp [stops]), List.dropWhile_cons_of_neg (by simp [stops])]
    exact ⟨List.append_nil _, rfl⟩

/-- A word ends where no small letter follows. -/
theorem takeWord_letters (w : Word) {s : List Char} (h : ∀ c ∈ s.head?, isAsciiLower c = false) :
    takeWord w.first (w.rest ++ s) = (w.letters, s) := by
  rw [takeWord, w.isLetter_first.notAsciiUpper, if_neg Bool.false_ne_true,
    w.small _ List.mem_cons_self, if_pos rfl, (takeWhile_rest w h).1, (takeWhile_rest w h).2]
  rfl

/-- A capital and the small letters behind it are taken as one word. -/
theorem takeWord_capitalized (w : Word) {s : List Char}
    (h : ∀ c ∈ s.head?, isAsciiLower c = false) :
    takeWord w.first.toUpper (w.rest ++ s) = (w.capitalized, s) := by
  obtain ⟨second, more, rest⟩ := List.exists_cons_of_ne_nil w.rest_ne_nil
  have small : isAsciiLower second = true := w.small second (by simp [rest])
  have notUpper : isAsciiUpper second = false :=
    (w.isLetter_rest (c := second) (by simp [rest])).notAsciiUpper
  have word := takeWhile_rest w h
  rw [rest, List.cons_append] at word ⊢
  simp only [takeWord, w.isLetter_first.upper_isAsciiUpper, if_true,
    List.takeWhile_cons_of_neg (p := isAsciiUpper) (a := second) (by simp [notUpper]),
    List.dropWhile_cons_of_neg (p := isAsciiUpper) (a := second) (by simp [notUpper]),
    List.head?_cons, Option.any_some, small, List.getLast?_nil, word.1, word.2]
  rw [Word.capitalized, rest]

theorem wordRuns_of_takeWord {c : Char} {r word s : List Char} (h : takeWord c r = (word, s))
    (nonempty : word ≠ []) : wordRuns (c :: r) = word :: wordRuns s := by
  rw [wordRuns, h, if_neg nonempty]

/-- The runs of capitalized words are these words. -/
theorem wordRuns_flatMap_capitalized (ws : List Word) :
    wordRuns (ws.flatMap Word.capitalized) = ws.map Word.capitalized := by
  induction ws with
  | nil => rw [List.flatMap_nil, wordRuns, List.map_nil]
  | cons w ws ih =>
    have word := takeWord_capitalized w (head?_flatMap_capitalized ws)
    rw [List.flatMap_cons, Word.capitalized, List.cons_append,
      wordRuns_of_takeWord word (List.cons_ne_nil _ _), ih, List.map_cons]

theorem wordRuns_letters (w : Word) {s : List Char}
    (h : ∀ c ∈ s.head?, isAsciiLower c = false) :
    wordRuns (w.letters ++ s) = w.letters :: wordRuns s := by
  rw [Word.letters, List.cons_append,
    wordRuns_of_takeWord (takeWord_letters w h) (List.cons_ne_nil _ _), Word.letters]

/-- A word in capitals is one run. -/
theorem wordRuns_capitals (w : Word) :
    wordRuns (w.letters.map Char.toUpper) = [w.letters.map Char.toUpper] := by
  have capitals : ∀ c ∈ w.rest.map Char.toUpper, isAsciiUpper c = true := by
    intro c hc
    obtain ⟨d, hd, rfl⟩ := List.mem_map.1 hc
    exact (w.isLetter_rest hd).upper_isAsciiUpper
  have word : takeWord w.first.toUpper (w.rest.map Char.toUpper) =
      (w.letters.map Char.toUpper, []) := by
    simp only [takeWord, w.isLetter_first.upper_isAsciiUpper, if_true,
      List.takeWhile_eq_self_iff.2 capitals, List.dropWhile_eq_nil_iff.2 capitals, List.head?_nil,
      Option.any_none, if_neg Bool.false_ne_true, Word.letters, List.map_cons]
  rw [Word.letters, List.map_cons, wordRuns_of_takeWord word (by simp [Word.letters]), wordRuns,
    Word.letters, List.map_cons]

/-- Words that are joined by underscores, each written in a way that is read as one word. -/
theorem words_intercalate {write : Word → List Char} (nonempty : ∀ w, write w ≠ [])
    (noUnderscore : ∀ w, '_' ∉ write w) (alone : ∀ w, wordRuns (write w) = [write w])
    (ws : List Word) :
    words (['_'].intercalate (ws.map write)) = (ws.map write).map lower := by
  rw [words]
  congr 1
  cases ws with
  | nil => rw [List.map_nil, List.intercalate_nil, if_neg (by simp), wordRuns]
  | cons w ws =>
    cases ws with
    | nil =>
      rw [List.map_cons, List.map_nil, List.intercalate_singleton,
        if_neg (by simpa using noUnderscore w), alone]
    | cons v ws =>
      have joined : (['_'].intercalate ((w :: v :: ws).map write)).contains '_' = true := by
        rw [List.map_cons, List.map_cons, List.intercalate_cons_cons]
        simp
      have noneHolds : ∀ word ∈ (w :: v :: ws).map write, '_' ∉ word := by
        intro word hword
        obtain ⟨u, -, rfl⟩ := List.mem_map.1 hword
        exact noUnderscore u
      rw [if_pos joined, List.splitOn_intercalate '_' noneHolds (by simp),
        List.filter_eq_self]
      intro word hword
      obtain ⟨u, -, rfl⟩ := List.mem_map.1 hword
      exact decide_eq_true (nonempty u)

theorem words_of_not_mem {s : List Char} (h : '_' ∉ s) : words s = (wordRuns s).map lower := by
  rw [words, if_neg (by simpa using h)]

theorem lower_letters (w : Word) : lower w.letters = w.letters := by
  rw [lower, lowerAfter_of_ascii fun c hc => (w.isLetter hc).ascii, w.map_toLower_letters]

theorem lower_capitalized (w : Word) : lower w.capitalized = w.letters := by
  rw [lower, lowerAfter_of_ascii fun c hc => isAscii_capitalized hc, w.map_toLower_capitalized]

/-- The small form of a word in capitals is its letters. -/
theorem lower_capitals (w : Word) : lower (w.letters.map Char.toUpper) = w.letters := by
  have ascii : ∀ c ∈ w.letters.map Char.toUpper, c.toNat < 128 := by
    intro c hc
    obtain ⟨d, hd, rfl⟩ := List.mem_map.1 hc
    exact (w.isLetter hd).upper_ascii
  rw [lower, lowerAfter_of_ascii ascii, w.map_toLower_map_toUpper]

/-- Capitalized words hold no underscore. -/
theorem underscore_not_mem_flatMap (ws : List Word) : '_' ∉ ws.flatMap Word.capitalized := by
  intro h
  obtain ⟨w, -, h⟩ := List.mem_flatMap.1 h
  rcases List.mem_cons.1 h with first | rest
  · exact w.isLetter_first.upper_ne_underscore first.symm
  · exact (w.isLetter_rest rest).ne_underscore rfl

/-- Words in capitals are capitals of words. -/
theorem render_screaming (ws : List Word) :
    Convention.screaming.render ws =
      ['_'].intercalate (ws.map fun w => w.letters.map Char.toUpper) := by
  cases ws with
  | nil => rfl
  | cons w ws =>
    rw [Convention.render, intercalate_cons_flatMap, intercalate_cons_flatMap, List.map_append,
      List.map_flatMap]
    rfl

/-- **The words of a name are read off every way of writing them.** -/
theorem words_render (convention : Convention) (ws : List Word) :
    words (convention.render ws) = ws.map Word.letters := by
  cases convention with
  | snake =>
    have alone (w : Word) : wordRuns w.letters = [w.letters] := by
      have := wordRuns_letters w (s := []) (by simp)
      rwa [List.append_nil, wordRuns] at this
    have nonempty (w : Word) : w.letters ≠ [] := List.cons_ne_nil _ _
    rw [Convention.render, words_intercalate nonempty Word.underscore_not_mem alone, List.map_map]
    exact List.map_congr_left fun w _ => lower_letters w
  | screaming =>
    have noUnderscore (w : Word) : '_' ∉ w.letters.map Char.toUpper := by
      intro h
      obtain ⟨c, hc, capital⟩ := List.mem_map.1 h
      exact (w.isLetter hc).upper_ne_underscore capital
    have nonempty (w : Word) : w.letters.map Char.toUpper ≠ [] := by simp [Word.letters]
    rw [render_screaming, words_intercalate nonempty noUnderscore wordRuns_capitals, List.map_map]
    exact List.map_congr_left fun w _ => lower_capitals w
  | camel =>
    cases ws with
    | nil => rw [Convention.render, words_of_not_mem (by simp), wordRuns, List.map_nil, List.map_nil]
    | cons w ws =>
      have noUnderscore : '_' ∉ w.letters ++ ws.flatMap Word.capitalized := by
        rw [List.mem_append, not_or]
        exact ⟨w.underscore_not_mem, underscore_not_mem_flatMap ws⟩
      -- Without underscores the words are the runs: one in small letters, then capitalized ones.
      rw [Convention.render, words_of_not_mem noUnderscore,
        wordRuns_letters w (head?_flatMap_capitalized ws), wordRuns_flatMap_capitalized,
        List.map_cons, List.map_cons, lower_letters, List.map_map]
      exact congrArg _ (List.map_congr_left fun w _ => lower_capitalized w)
  | pascal =>
    rw [Convention.render, words_of_not_mem (underscore_not_mem_flatMap ws),
      wordRuns_flatMap_capitalized, List.map_map]
    exact List.map_congr_left fun w _ => lower_capitalized w

/-! ## Words written again -/

/-- Capitalizing the letters of a word gives the capitalized word. -/
theorem capitalize_letters (w : Word) : capitalize w.letters = w.capitalized := by
  rw [Word.letters, capitalize, (mapCase_of_ascii w.isLetter_first.ascii).2.2,
    lowerAfter_of_ascii fun c hc => (w.isLetter_rest hc).ascii, w.map_toLower_rest]
  rfl

/-- Joining the letters of words in a convention renders the words in it. -/
theorem join_letters (convention : Convention) (ws : List Word) :
    join convention (ws.map Word.letters) = convention.render ws := by
  have capitals (ws : List Word) : ((ws.map Word.letters).map capitalize).flatten =
      ws.flatMap Word.capitalized := by
    rw [List.map_map, List.flatMap_def]
    exact congrArg _ (List.map_congr_left fun w _ => capitalize_letters w)
  cases convention with
  | snake => rfl
  | screaming =>
    refine upper_of_ascii fun c hc => ?_
    rcases (mem_render_snake hc : c = '_' ∨ IsLetter c) with rfl | letter
    · decide
    · exact letter.ascii
  | camel =>
    cases ws with
    | nil => rfl
    | cons w ws => rw [List.map_cons, join, capitals, Convention.render]
  | pascal => rw [join, capitals, Convention.render]

/-- A convention is applied under its own label. -/
theorem spellAs_label (convention : Convention) (name : String) :
    spellAs convention.label name = spell convention name := by
  have found : Convention.all.find? (·.label == convention.label) = some convention := by
    cases convention <;> rfl
  rw [spellAs, found]

/-! ## Names -/

/-- **A name in any convention is normalized to the same words in small letters and underscores.**
-/
theorem normalize_write (convention : Convention) (ws : List Word) :
    normalize (convention.write ws) = Convention.snake.write ws := by
  rw [normalize, Convention.write, String.toList_ofList, normalizeChars_render, Convention.write]

/-- **A name in one convention is turned into the same words in any other.** -/
theorem spellAs_write (old new : Convention) (ws : List Word) :
    spellAs new.label (old.write ws) = new.write ws := by
  rw [spellAs_label, spell, Convention.write, String.toList_ofList, words_render, join_letters,
    Convention.write]

end Concord.Name
