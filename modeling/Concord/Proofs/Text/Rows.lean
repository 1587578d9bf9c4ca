import Mathlib.Tactic.SplitIfs
import Concord.Text.Line
import Concord.Text.Utf8

/-!
# Concord.Proofs.Text.Rows

The rows of a text are its pieces between line feeds, its lines the pieces between all characters
that end a line.

* `splitOn_decodeLossy` — rows may be told from the bytes of the text alone;
* `flatMap_splitOn` — lines are what the rows break into;
* `kept_span_flatMap` — so rows and lines with the same numbers are the same text, as long as no row
  breaks (`IsWhole`).
-/

namespace Concord.Text

namespace Utf8

/-! ## Line feeds in bytes -/

/-- **A byte continues a character only from 128 on, and what it continues is no control.** -/
theorem lead?_cases {b : Nat} {l : Lead} (h : lead? b = some l) :
    128 ≤ l.low ∧ (l.more = 0 ∧ l.bits = b ∨ 0 < l.more ∧ (0 < l.bits ∨ 144 ≤ l.low)) := by
  rw [lead?] at h
  split_ifs at h <;> cases h <;> simp <;> omega

/-- The byte of a line feed continues no character. -/
theorem continuation_append_lineFeed {low high acc more : Nat} {bytes rest : List UInt8}
    (h : 128 ≤ low) :
    continuation low high acc more (bytes ++ 10 :: rest) =
      ((continuation low high acc more bytes).1,
        (continuation low high acc more bytes).2 ++ 10 :: rest) := by
  fun_induction continuation low high acc more bytes with
  | case1 => simp [continuation]
  | case2 low high acc more =>
    have ends : ¬ (low ≤ (10 : UInt8).toNat ∧ (10 : UInt8).toNat ≤ high) := fun both =>
      absurd (Nat.le_trans h both.1) (by decide)
    rw [List.nil_append, continuation, if_neg (by simpa using ends)]
  | case3 low high acc more b bytes continues ih =>
    rw [List.cons_append, continuation, if_pos continues, ih (by decide)]
  | case4 low high acc more b bytes breaks =>
    rw [List.cons_append, continuation, if_neg breaks]

/-- A line feed ends the bytes of a character, whatever they were. -/
theorem pieces_append_lineFeed (bytes rest : List UInt8) :
    pieces (bytes ++ 10 :: rest) = pieces bytes ++ some '\n' :: pieces rest := by
  fun_induction pieces bytes with
  | case1 =>
    have lineFeed : lead? (10 : UInt8).toNat = some ⟨0, 0x80, 0xbf, 10⟩ := rfl
    rw [List.nil_append, pieces, lineFeed]
    rfl
  | case2 b bytes none ih => rw [List.cons_append, pieces, none, ih]; rfl
  | case3 b bytes l lead ih =>
    rw [List.cons_append, pieces, lead]
    simp only
    rw [continuation_append_lineFeed (lead?_cases lead).1, ih, List.cons_append]

theorem decodeLossy_append_lineFeed (bytes rest : List UInt8) :
    decodeLossy (bytes ++ 10 :: rest) = decodeLossy bytes ++ '\n' :: decodeLossy rest := by
  simp [decodeLossy, pieces_append_lineFeed]

/-- Continuation bytes behind bits that reach 16 make a number that does. -/
theorem le_of_continuation {low high acc more v : Nat} {bytes : List UInt8} (large : 16 ≤ acc)
    (h : (continuation low high acc more bytes).1 = some v) : 16 ≤ v := by
  fun_induction continuation low high acc more bytes with
  | case1 low high acc => cases h; exact large
  | case2 | case4 => cases h
  | case3 low high acc more b bytes continues ih => exact ih (by omega) h

/-- A code point is its only byte, or it is no line feed. -/
theorem eq_or_le_of_continuation {b v : Nat} {l : Lead} {bytes : List UInt8}
    (lead : lead? b = some l)
    (h : (continuation l.low l.high l.bits l.more bytes).1 = some v) : v = b ∨ 16 ≤ v := by
  obtain ⟨more, low, high, bits⟩ := l
  obtain ⟨-, ⟨rfl, rfl⟩ | ⟨follows, large⟩⟩ := lead?_cases lead
  · left
    simpa [continuation] using h.symm
  · right
    simp only at follows large h
    obtain ⟨more, rfl⟩ := Nat.exists_eq_succ_of_ne_zero (Nat.ne_of_gt follows)
    cases bytes with
    | nil => cases h
    | cons c bytes =>
      rw [continuation] at h
      split at h
      · next continues =>
        simp only [Bool.and_eq_true, decide_eq_true_eq] at continues
        exact le_of_continuation (by omega) h
      · cases h

/-- Only one number is that of a line feed. -/
theorem eq_of_ofNat_eq_lineFeed {v : Nat} (h : Char.ofNat v = '\n') : v = 10 := by
  by_cases valid : v.isValidChar
  · have code : (Char.ofNat v).toNat = v := by rw [Char.ofNat, dif_pos valid]; rfl
    rw [← code, h]
    rfl
  · rw [Char.ofNat, dif_neg valid] at h
    exact absurd h (by decide)

/-- Reading continuation bytes leaves a suffix of the bytes. -/
theorem continuation_suffix (low high acc more : Nat) (bytes : List UInt8) :
    (continuation low high acc more bytes).2 <:+ bytes := by
  fun_induction continuation low high acc more bytes with
  | case1 | case2 | case4 => exact List.suffix_rfl
  | case3 low high acc more b bytes continues ih => exact ih.trans (List.suffix_cons b bytes)

/-- No line feed is decoded from bytes without one. -/
theorem lineFeed_not_mem_pieces {bytes : List UInt8} (h : 10 ∉ bytes) :
    some '\n' ∉ pieces bytes := by
  fun_induction pieces bytes with
  | case1 => exact List.not_mem_nil
  | case2 b bytes none ih =>
    rw [List.mem_cons, not_or] at h ⊢
    exact ⟨nofun, ih h.2⟩
  | case3 b bytes l lead ih =>
    rw [List.mem_cons, not_or] at h ⊢
    refine ⟨fun first => ?_, ih fun there => h.2 ((continuation_suffix ..).subset there)⟩
    obtain ⟨v, read, char⟩ := Option.map_eq_some_iff.1 first.symm
    obtain rfl := eq_of_ofNat_eq_lineFeed char
    have code := eq_or_le_of_continuation lead read
    exact h.1 (UInt8.toNat_inj.1 (by simpa using code))

/-- So the decoded text holds none. -/
theorem lineFeed_not_mem_decodeLossy {bytes : List UInt8} (h : 10 ∉ bytes) :
    '\n' ∉ decodeLossy bytes := by
  rw [decodeLossy, List.mem_map]
  rintro ⟨piece, there, char⟩
  cases piece with
  | none => exact absurd char (by decide)
  | some c =>
    obtain rfl : c = '\n' := char
    exact lineFeed_not_mem_pieces h there

end Utf8

/-! ## Rows -/

/-- A text is a row, or a row, its end and the rest. -/
theorem rows_induction {α : Type} [DecidableEq α] (c : α) {P : List α → Prop}
    (last : ∀ row, c ∉ row → P row)
    (next : ∀ row rest, c ∉ row → P rest → P (row ++ c :: rest)) (s : List α) : P s := by
  by_cases ends : c ∈ s
  · obtain ⟨row, rest, same, free⟩ := List.eq_append_cons_of_mem ends
    have shorter : rest.length < s.length := by simp [same]; omega
    exact same ▸ next row rest free (rows_induction c last next rest)
  · exact last s ends
termination_by s.length

/-- A row in front of the separator is the first part. -/
theorem splitOn_append_cons {α : Type} [DecidableEq α] {c : α} {row : List α} (h : c ∉ row)
    (rest : List α) : (row ++ c :: rest).splitOn c = row :: rest.splitOn c := by
  have pieces := List.splitOnP_append_cons (p := (· == c)) row rest (beq_self_eq_true c)
  have first : row.splitOnP (· == c) = [row] := List.splitOn_eq_singleton h
  rw [List.splitOn, pieces, first]
  rfl

/-- **Rows of a text are the rows of its bytes.** -/
theorem splitOn_decodeLossy (bytes : List UInt8) :
    (Utf8.decodeLossy bytes).splitOn '\n' = (bytes.splitOn 10).map Utf8.decodeLossy := by
  induction bytes using rows_induction (10 : UInt8) with
  | last row free =>
    rw [List.splitOn_eq_singleton (Utf8.lineFeed_not_mem_decodeLossy free),
      List.splitOn_eq_singleton free, List.map_singleton]
  | next row rest free ih =>
    rw [Utf8.decodeLossy_append_lineFeed, splitOn_append_cons free,
      splitOn_append_cons (Utf8.lineFeed_not_mem_decodeLossy free), ih, List.map_cons]

/-! ## Lines -/

/-- The lines that a row breaks into. -/
def broken (row : List Char) : List (List Char) := lines (row ++ ['\n'])

/-- Whether no character of a row ends a line, except a carriage return at its end. -/
def IsWhole (row : List Char) : Prop :=
  ∃ text, (∀ c ∈ text, isLineEnd c = false) ∧ (row = text ∨ row = text ++ ['\r'])

/-- A character ends a line or goes on the first one, if it is no carriage return in front of a
line feed. -/
theorem lines_cons {c : Char} {r : List Char} (h : c = '\r' → r.head? ≠ some '\n') :
    lines (c :: r) = if isLineEnd c then [] :: lines r else consFirst c (lines r) := by
  rw [lines]
  rintro r' rfl rfl
  exact h rfl rfl

/-- A text that is not empty has a line. -/
theorem lines_ne_nil {s : List Char} (h : s ≠ []) : lines s ≠ [] := by
  fun_cases lines s with
  | case1 => exact absurd rfl h
  | case2 | case3 => nofun
  | case4 c r => cases lines r <;> nofun

/-- A character in front goes on the first line. -/
theorem consFirst_append {c : Char} {ps qs : List (List Char)} (h : ps ≠ []) :
    consFirst c (ps ++ qs) = consFirst c ps ++ qs := by
  cases ps with
  | nil => exact absurd rfl h
  | cons p ps => rfl

/-- **What follows a line feed has lines of its own.** -/
theorem lines_append_cons (row rest : List Char) :
    lines (row ++ '\n' :: rest) = lines (row ++ ['\n']) ++ lines rest := by
  fun_induction lines row with
  | case1 => simp [lines, isLineEnd]
  | case2 r ih => simp [lines, ih]
  | case3 c r apart ends ih =>
    by_cases both : c = '\r' ∧ r = []
    · obtain ⟨rfl, rfl⟩ := both
      simp [lines]
    · have free (rest : List Char) : c = '\r' → (r ++ '\n' :: rest).head? ≠ some '\n' := by
        cases r <;> simp_all
      rw [List.cons_append, List.cons_append, lines_cons (free rest), lines_cons (free []),
        if_pos ends, if_pos ends, ih, List.cons_append]
  | case4 c r apart ends ih =>
    have free (rest : List Char) : c = '\r' → (r ++ '\n' :: rest).head? ≠ some '\n' := by
      rintro rfl
      exact absurd rfl ends
    rw [List.cons_append, List.cons_append, lines_cons (free rest), lines_cons (free []),
      if_neg ends, if_neg ends, ih, consFirst_append (lines_ne_nil (by simp))]

/-- The end of the last line may be missing. -/
theorem lines_append_lineFeed (s : List Char) :
    lines (s ++ ['\n']) = lines s ∨ lines (s ++ ['\n']) = lines s ++ [[]] := by
  fun_induction lines s with
  | case1 => exact .inr rfl
  | case2 r ih => simpa [lines] using ih
  | case3 c r apart ends ih =>
    by_cases both : c = '\r' ∧ r = []
    · obtain ⟨rfl, rfl⟩ := both
      exact .inl rfl
    · have free : c = '\r' → (r ++ ['\n']).head? ≠ some '\n' := by cases r <;> simp_all
      rw [List.cons_append, lines_cons free, if_pos ends]
      simpa using ih
  | case4 c r apart ends ih =>
    have free : c = '\r' → (r ++ ['\n']).head? ≠ some '\n' := by
      rintro rfl
      exact absurd rfl ends
    rw [List.cons_append, lines_cons free, if_neg ends]
    by_cases last : r = []
    · subst last
      exact .inl rfl
    · refine ih.imp (congrArg (consFirst c)) fun more => ?_
      rw [more, consFirst_append (lines_ne_nil last)]

/-- Text without ends of lines goes on the line behind it. -/
theorem lines_append_of_free {text : List Char} (h : ∀ c ∈ text, isLineEnd c = false)
    (rest : List Char) : lines (text ++ rest) = text.foldr consFirst (lines rest) := by
  induction text with
  | nil => rfl
  | cons c text ih =>
    have ends : isLineEnd c = false := h c List.mem_cons_self
    have free : c = '\r' → (text ++ rest).head? ≠ some '\n' := by
      rintro rfl
      exact absurd ends (by decide)
    rw [List.cons_append, lines_cons free, if_neg (by simp [ends]),
      ih fun d hd => h d (List.mem_cons_of_mem c hd), List.foldr_cons]

/-- A text goes on the first line as a whole. -/
theorem foldr_consFirst (text line : List Char) (rest : List (List Char)) :
    text.foldr consFirst (line :: rest) = (text ++ line) :: rest := by
  induction text with
  | nil => rfl
  | cons c text ih => rw [List.foldr_cons, ih]; rfl

/-- A blank behind a text is trimmed away. -/
theorem trim_append_blank {c : Char} (h : isBlank c = true) (s : List Char) :
    trim (s ++ [c]) = trim s := by
  have atEnd (s : List Char) : trimEnd (s ++ [c]) = trimEnd s := by
    simp [trimEnd, trimEndBy, h]
  rw [trim, trim, trimStart, trimStart, List.dropWhile_append]
  split
  · next blank => simp [List.isEmpty_iff.1 blank, h]
  · exact atEnd _

/-- **A whole row is one line.** -/
theorem IsWhole.broken_eq {row : List Char} (h : IsWhole row) :
    ∃ line, broken row = [line] ∧ trim line = trim row := by
  rw [broken]
  obtain ⟨text, free, rfl | rfl⟩ := h
  · refine ⟨row, ?_, rfl⟩
    rw [lines_append_of_free free]
    exact (foldr_consFirst row [] []).trans (by rw [List.append_nil])
  · refine ⟨text, ?_, (trim_append_blank rfl text).symm⟩
    rw [List.append_assoc, lines_append_of_free free]
    exact (foldr_consFirst text [] []).trans (by rw [List.append_nil])

/-- Carriage returns count as line feeds. -/
theorem lines_unixLineEnds (s : List Char) : lines (unixLineEnds s) = lines s := by
  have feed (r : List Char) : lines ('\n' :: r) = [] :: lines r := lines_cons nofun
  fun_induction unixLineEnds s with
  | case1 => rfl
  | case2 r ih => rw [feed, ih, lines]
  | case3 r apart ih =>
    have alone : '\r' = '\r' → r.head? ≠ some '\n' := by
      intro _ first
      cases r with
      | nil => cases first
      | cons c r => exact apart r (by simpa using first)
    rw [feed, ih, lines_cons alone]
    rfl
  | case4 c r apart other ih =>
    rw [lines_cons fun same => absurd same other, lines_cons fun same => absurd same other, ih]

/-- **Lines are what the rows break into**, but for an empty one behind the last end. -/
theorem flatMap_splitOn (text : List Char) :
    (text.splitOn '\n').flatMap broken = lines text ∨
      (text.splitOn '\n').flatMap broken = lines text ++ [[]] := by
  induction text using rows_induction '\n' with
  | last row free =>
    rw [List.splitOn_eq_singleton free, List.flatMap_singleton]
    exact lines_append_lineFeed row
  | next row rest free ih =>
    rw [splitOn_append_cons free, List.flatMap_cons, broken, lines_append_cons row rest,
      List.append_assoc]
    exact ih.imp (congrArg _) (congrArg _)

/-! ## Spans -/

/-- The rows whose numbers, from one, lie in a span. -/
def span (rows : List (List Char)) (first last : Int) : List (List Char) :=
  ((rows.zipIdx 1).filter fun e => first ≤ e.2 ∧ e.2 ≤ last).map (·.1)

/-- Numbered rows between two numbers are taken and dropped. -/
theorem filter_zipIdx {α : Type} (rows : List α) (n first last : Nat) :
    ((rows.zipIdx n).filter fun e => (first : Int) ≤ e.2 ∧ (e.2 : Int) ≤ last).map (·.1) =
      (rows.take (last + 1 - n)).drop (first - n) := by
  induction rows generalizing n with
  | nil => simp
  | cons row rows ih =>
    rw [List.zipIdx_cons, List.filter_cons]
    by_cases inside : (first : Int) ≤ n ∧ (n : Int) ≤ last
    · have more : last + 1 - n = (last + 1 - (n + 1)) + 1 := by omega
      have none : first - n = 0 := by omega
      have none' : first - (n + 1) = 0 := by omega
      simp only [inside, and_self, decide_true, if_true, List.map_cons, ih]
      rw [more, none, none', List.take_succ_cons, List.drop_zero, List.drop_zero]
    · simp only [inside, decide_false, Bool.false_eq_true, if_false, ih]
      by_cases past : last < n
      · have none : last + 1 - n = 0 := by omega
        have none' : last + 1 - (n + 1) = 0 := by omega
        rw [none, none', List.take_zero, List.take_zero, List.drop_nil, List.drop_nil]
      · have more : last + 1 - n = (last + 1 - (n + 1)) + 1 := by omega
        have less : first - n = (first - (n + 1)) + 1 := by omega
        rw [more, less, List.take_succ_cons, List.drop_succ_cons]

theorem span_eq (rows : List (List Char)) (first last : Nat) :
    span rows first last = (rows.take last).drop (first - 1) :=
  filter_zipIdx rows 1 first last

/-- What of some rows counts for a digest: their text between white space, if there is any. -/
def kept (rows : List (List Char)) : List (List Char) := (rows.map trim).filter (· ≠ [])

/-- Rows of one part each may be taken before or after they are parted. -/
theorem map_take_flatMap {α β γ : Type} {f : α → List β} {g : α → γ} {h : β → γ} {l : List α}
    {n : Nat} (one : ∀ a ∈ l.take n, ∃ b, f a = [b] ∧ h b = g a) :
    ((l.flatMap f).take n).map h = (l.take n).map g := by
  induction l generalizing n with
  | nil => simp
  | cons a l ih =>
    cases n with
    | zero => rfl
    | succ n =>
      rw [List.take_succ_cons] at one
      obtain ⟨b, single, same⟩ := one a List.mem_cons_self
      have rest := ih fun c hc => one c (List.mem_cons_of_mem a hc)
      rw [List.flatMap_cons, single, List.singleton_append, List.take_succ_cons,
        List.take_succ_cons, List.map_cons, List.map_cons, same, rest]

/-- An empty last row adds nothing to what is kept of a span. -/
theorem kept_span_append_nil (rows : List (List Char)) (first last : Nat) :
    kept (span (rows ++ [[]]) first last) = kept (span rows first last) := by
  have blank (m k : Nat) : kept ((([[]] : List (List Char)).take m).drop k) = [] := by
    have empty : trim [] = [] := rfl
    cases m <;> cases k <;> simp [kept, empty]
  rw [span_eq, span_eq, List.take_append, List.drop_append]
  simp only [kept, List.map_append, List.filter_append] at blank ⊢
  rw [blank, List.append_nil]

/-- A span is the same in lines as in rows, if the rows are broken at their other ends. -/
theorem kept_span_lines (text : List Char) (first last : Nat) :
    kept (span (lines text) first last) =
      kept (span ((text.splitOn '\n').flatMap broken) first last) := by
  rcases flatMap_splitOn text with same | more
  · rw [same]
  · rw [more, kept_span_append_nil]

/-- **Rows and the lines they break into are the same text under the same numbers**, as long as the
rows are whole. -/
theorem kept_span_flatMap {rows : List (List Char)} {first last : Nat}
    (whole : ∀ row ∈ span rows 1 last, IsWhole row) :
    kept (span (rows.flatMap broken) first last) = kept (span rows first last) := by
  have upTo : span rows 1 last = rows.take last := span_eq rows 1 last
  rw [upTo] at whole
  rw [span_eq, span_eq, kept, kept, List.map_drop, List.map_drop,
    map_take_flatMap fun row there => (whole row there).broken_eq]

end Concord.Text
