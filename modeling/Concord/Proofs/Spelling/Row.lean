import Concord.Proofs.Spelling.Texts

/-!
# Concord.Proofs.Spelling.Row

Layered spellings as a reader meets them.  A text does not tell in which order the layers in front,
the layers behind and the unions around it were put there: `[]T?` is an array of what may be absent
and an array that may be absent.  A *row* keeps of a spelling what its text tells, the members of a
union from left to right: one member holds the core, and all others are `None` with layers on the
side away from it.

```
[]None | *Box<T>[]? | None?
└before┘ └front,core,back┘ └behind┘
```

* `Spelled.row` — the row of a spelling, with the same text, layers and atom;
* `Row.view` — what is outermost in a row, as a reader tries it: a layer in front, a layer behind, a
  union with `None`, or a core.
-/

namespace Concord.Spelling

open Text

/-! ## Rows -/

/-- What the reader cannot take layers off from the left or the right. -/
inductive Core where
  | atom (name : List Char)
  | bracketed (inside : Spelled)
  | wrapped (w : Wrapper) (inside : Spelled)
deriving DecidableEq, Repr

/-- A union of `None` and one other type, with the layers of its members.  Layers and members behind
the core are listed from the right. -/
structure Row where
  before : List (List Front) := []
  front : List Front := []
  core : Core
  back : List Back := []
  behind : List (List Back) := []
deriving DecidableEq, Repr

/-- A core as a spelling. -/
def Core.spelled : Core → Spelled
  | atom name => .atom name
  | bracketed inside => .layer .bracketed inside
  | wrapped w inside => .layer (.wrapped w) inside

/-- Layers in front, written from the left. -/
def fronts (fs : List Front) : List Char := fs.flatMap Front.text

/-- Layers behind, listed from the right. -/
def backs : List Back → List Char
  | [] => []
  | b :: bs => backs bs ++ b.text

/-- The members in front of the core's, with the bars behind them. -/
def leading : List (List Front) → List Char
  | [] => []
  | fs :: rest => fronts fs ++ ("None | ".toList ++ leading rest)

/-- The members behind the core's, with the bars in front of them. -/
def trailing : List (List Back) → List Char
  | [] => []
  | bs :: rest => trailing rest ++ " | None".toList ++ backs bs

/-- The member of the core. -/
def Row.center (r : Row) : List Char := fronts r.front ++ r.core.spelled.text ++ backs r.back

/-- The text of a row. -/
def Row.text (r : Row) : List Char := leading r.before ++ r.center ++ trailing r.behind

/-- Whether layers of the given kind stand in front of the core's member, members counted as
optional. -/
def leadHas (kind : Kind) : List (List Front) → Bool
  | [] => false
  | fs :: rest => fs.any (·.kind == kind) || Kind.optional == kind || leadHas kind rest

/-- Whether layers of the given kind stand behind the core's member, members counted as optional. -/
def trailHas (kind : Kind) : List (List Back) → Bool
  | [] => false
  | bs :: rest => bs.any (·.kind == kind) || Kind.optional == kind || trailHas kind rest

/-- Whether a row has a layer of the given kind. -/
def Row.has (kind : Kind) (r : Row) : Bool :=
  leadHas kind r.before || r.front.any (·.kind == kind) || r.core.spelled.has kind ||
    r.back.any (·.kind == kind) || trailHas kind r.behind

/-! ## Building rows -/

namespace Row

/-- A layer in front of the first member. -/
def pushFront (r : Row) (f : Front) : Row :=
  match r.before with
  | [] => { r with front := f :: r.front }
  | fs :: rest => { r with before := (f :: fs) :: rest }

/-- A layer behind the last member. -/
def pushBack (r : Row) (b : Back) : Row :=
  match r.behind with
  | [] => { r with back := b :: r.back }
  | bs :: rest => { r with behind := (b :: bs) :: rest }

/-- A member in front of all others. -/
def noneOr (r : Row) : Row := { r with before := [] :: r.before }

/-- A member behind all others. -/
def orNone (r : Row) : Row := { r with behind := [] :: r.behind }

/-- The layers in front of the first member. -/
def firstFronts (r : Row) : List Front :=
  match r.before with
  | [] => r.front
  | fs :: _ => fs

/-- The layers behind the last member. -/
def lastBacks (r : Row) : List Back :=
  match r.behind with
  | [] => r.back
  | bs :: _ => bs

variable (r : Row)

@[simp] theorem text_pushFront (f : Front) : (r.pushFront f).text = f.text ++ r.text := by
  unfold pushFront
  split <;> simp [text, center, leading, fronts, *]

@[simp] theorem text_pushBack (b : Back) : (r.pushBack b).text = r.text ++ b.text := by
  unfold pushBack
  split <;> simp [text, center, trailing, backs, *]

@[simp] theorem text_noneOr : r.noneOr.text = "None | ".toList ++ r.text := by
  simp [noneOr, text, center, leading, fronts]

@[simp] theorem text_orNone : r.orNone.text = r.text ++ " | None".toList := by
  simp [orNone, text, center, trailing, backs]

theorem has_pushFront (f : Front) (kind : Kind) :
    (r.pushFront f).has kind = (f.kind == kind || r.has kind) := by
  unfold pushFront
  split <;> simp [has, leadHas, Bool.or_assoc, *]

theorem has_pushBack (b : Back) (kind : Kind) :
    (r.pushBack b).has kind = (b.kind == kind || r.has kind) := by
  unfold pushBack
  split <;> simp [has, trailHas, Bool.or_assoc, Bool.or_left_comm, *]

theorem has_noneOr (kind : Kind) : r.noneOr.has kind = (Kind.optional == kind || r.has kind) := by
  simp [noneOr, has, leadHas, Bool.or_assoc]

theorem has_orNone (kind : Kind) : r.orNone.has kind = (Kind.optional == kind || r.has kind) := by
  simp [orNone, has, trailHas, Bool.or_assoc, Bool.or_left_comm]

@[simp] theorem core_pushFront (f : Front) : (r.pushFront f).core = r.core := by
  unfold pushFront
  split <;> rfl

@[simp] theorem core_pushBack (b : Back) : (r.pushBack b).core = r.core := by
  unfold pushBack
  split <;> rfl

end Row

/-- The row of a spelling. -/
def Spelled.row : Spelled → Row
  | atom name => { core := .atom name }
  | layer (.front f) inside => inside.row.pushFront f
  | layer (.back b) inside => inside.row.pushBack b
  | layer .bracketed inside => { core := .bracketed inside }
  | layer (.wrapped w) inside => { core := .wrapped w inside }
  | layer .orNone inside => inside.row.orNone
  | layer .noneOr inside => inside.row.noneOr

namespace Spelled

/-- **A spelled type and its row have one text.** -/
theorem text_row (t : Spelled) : t.row.text = t.text := by
  fun_induction Spelled.row t with
  | case1 name => simp [Row.text, Row.center, leading, trailing, fronts, backs, Core.spelled]
  | case2 f inside ih => rw [Row.text_pushFront, ih]; rfl
  | case3 b inside ih => rw [Row.text_pushBack, ih]; rfl
  | case4 inside => simp [Row.text, Row.center, leading, trailing, fronts, backs, Core.spelled]
  | case5 w inside => simp [Row.text, Row.center, leading, trailing, fronts, backs, Core.spelled]
  | case6 inside ih => rw [Row.text_orNone, ih]; rfl
  | case7 inside ih => rw [Row.text_noneOr, ih]; rfl

/-- A spelled type and its row have the same kinds of layers. -/
theorem has_row (t : Spelled) (kind : Kind) : t.row.has kind = t.has kind := by
  fun_induction Spelled.row t with
  | case1 name => simp [Row.has, leadHas, trailHas, Core.spelled]
  | case2 f inside ih => rw [Row.has_pushFront, ih]; rfl
  | case3 b inside ih => rw [Row.has_pushBack, ih]; rfl
  | case4 inside => simp [Row.has, leadHas, trailHas, Core.spelled]
  | case5 w inside => simp [Row.has, leadHas, trailHas, Core.spelled]
  | case6 inside ih => rw [Row.has_orNone, ih]; rfl
  | case7 inside ih => rw [Row.has_noneOr, ih]; rfl

/-- A spelled type and the core of its row have one name. -/
theorem name_row (t : Spelled) : t.row.core.spelled.name = t.name := by
  fun_induction Spelled.row t with
  | case1 name => rfl
  | case2 f inside ih => rw [Row.core_pushFront, ih]; rfl
  | case3 b inside ih => rw [Row.core_pushBack, ih]; rfl
  | case4 inside => rfl
  | case5 w inside => rfl
  | case6 inside ih => exact ih
  | case7 inside ih => exact ih

end Spelled

/-! ## Proper rows -/

/-- Whether layers in front fit one another. -/
def frontsFit : List Front → Bool
  | [] => true
  | f :: fs => f.fits (fronts fs) && frontsFit fs

/-- Rows of proper spellings. -/
@[mk_iff]
structure Row.IsProper (r : Row) : Prop where
  before : ∀ fs ∈ r.before, frontsFit fs = true
  front : frontsFit r.front = true
  core : r.core.spelled.IsProper

/-- A text in front of which nothing marks a pointer tells by itself whether it begins with one.
-/
theorem beginsWithMark_append {t : List Char} (h : beginsWithMark t = false) (s : List Char) :
    beginsWithMark (s ++ t) = beginsWithMark s := by
  cases s with
  | nil => exact h
  | cons c r => rfl

/-- So a mark fits in front of a longer text exactly if it fits in front of the shorter. -/
theorem Front.fits_append {t : List Char} (h : beginsWithMark t = false) (f : Front)
    (s : List Char) : f.fits (s ++ t) = f.fits s := by
  cases f with
  | indexed digits => rfl
  | star | ampersand => rw [fits, fits, beginsWithMark_append h]

/-- A core begins with a letter or a bracket. -/
theorem Core.begins {c : Core} (h : c.spelled.IsProper) :
    ∃ d rest, c.spelled.text = d :: rest ∧
      (d.isAlpha = true ∨
        d = '[' ∧ ∃ e rest', rest = e :: rest' ∧ isSpellingChar e = true ∧ startsSpelling e = true) := by
  cases c with
  | atom name =>
    have letter := (show IsAtom name from h).letter
    cases name with
    | nil => cases letter
    | cons d rest => exact ⟨d, rest, rfl, .inl letter⟩
  | bracketed inside =>
    have spelling := Spelled.isSpelling h.2
    obtain ⟨e, he, starts⟩ := spelling.head
    refine ⟨'[', inside.text ++ [']'], rfl, .inr ⟨rfl, ?_⟩⟩
    cases text : inside.text with
    | nil => exact absurd text spelling.nonempty
    | cons e' rest =>
      rw [text, List.head?_cons, Option.some.injEq] at he
      subst he
      exact ⟨e', rest ++ [']'], rfl, spelling.char (text ▸ List.mem_cons_self), starts⟩
  | wrapped w inside => cases w <;> exact ⟨_, _, rfl, .inl rfl⟩

/-- A proper core does not begin with the mark of a pointer. -/
theorem Core.beginsWithMark {c : Core} (h : c.spelled.IsProper) (s : List Char) :
    beginsWithMark (c.spelled.text ++ s) = false := by
  obtain ⟨d, rest, text, letter | ⟨rfl, -⟩⟩ := Core.begins h
  · rw [text]
    exact beginsWithMark_of_isAlpha letter
  · rw [text]
    rfl

/-- What a layer in front of a row has to fit is the layers that stand there already. -/
theorem Row.fits_text {r : Row} (h : r.core.spelled.IsProper) (f : Front) :
    f.fits r.text = f.fits (fronts r.firstFronts) := by
  unfold firstFronts
  split
  · rename_i before
    have text : r.text =
        fronts r.front ++ (r.core.spelled.text ++ (backs r.back ++ trailing r.behind)) := by
      simp [Row.text, center, leading, before]
    rw [text, f.fits_append (Core.beginsWithMark h _)]
  · rename_i fs rest before
    have text : r.text =
        fronts fs ++ ("None | ".toList ++ (leading rest ++ (r.center ++ trailing r.behind))) := by
      simp [Row.text, leading, before]
    rw [text, f.fits_append rfl]

/-- A row with a mark in front is proper exactly if the mark fits there. -/
theorem Row.isProper_pushFront {r : Row} {f : Front} :
    (r.pushFront f).IsProper ↔ f.fits r.text = true ∧ r.IsProper := by
  by_cases core : r.core.spelled.IsProper
  · rw [Row.fits_text core]
    unfold pushFront firstFronts
    split <;> rename_i before <;> simp only [isProper_iff, before, core, frontsFit,
      List.forall_mem_cons, Bool.and_eq_true] <;> tauto
  · have pushed : ¬ (r.pushFront f).IsProper := fun h => core (by simpa using h.core)
    exact iff_of_false pushed fun h => core h.2.core

/-- A row with a mark behind is proper exactly if the row is. -/
theorem Row.isProper_pushBack {r : Row} {b : Back} : (r.pushBack b).IsProper ↔ r.IsProper := by
  unfold pushBack
  split
  · exact ⟨fun h => ⟨h.before, h.front, h.core⟩, fun h => ⟨h.before, h.front, h.core⟩⟩
  · exact ⟨fun h => ⟨h.before, h.front, h.core⟩, fun h => ⟨h.before, h.front, h.core⟩⟩

/-- The row of a proper spelled type is proper. -/
theorem Spelled.isProper_row {t : Spelled} (h : t.IsProper) : t.row.IsProper := by
  fun_induction Spelled.row t with
  | case1 name => exact ⟨nofun, rfl, h⟩
  | case2 f inside ih =>
    rw [Row.isProper_pushFront, text_row]
    exact ⟨h.1, ih h.2⟩
  | case3 b inside ih => exact Row.isProper_pushBack.2 (ih h.2)
  | case4 inside => exact ⟨nofun, rfl, h⟩
  | case5 w inside => exact ⟨nofun, rfl, h⟩
  | case6 inside ih =>
    have := ih h.2
    exact ⟨this.before, this.front, this.core⟩
  | case7 inside ih =>
    have := ih h.2
    exact ⟨List.forall_mem_cons.2 ⟨rfl, this.before⟩, this.front, this.core⟩

/-! ## Rows are spellings -/

/-- A spelling stays one with a run of fitting marks in front. -/
theorem IsSpelling.fronts {s : List Char} (h : IsSpelling s) (clear : beginsWithMark s = false)
    {fs : List Front} (fit : frontsFit fs = true) : IsSpelling (fronts fs ++ s) := by
  induction fs with
  | nil => exact h
  | cons f fs ih =>
    rw [frontsFit, Bool.and_eq_true] at fit
    rw [Spelling.fronts, List.flatMap_cons, List.append_assoc]
    refine (ih fit.2).front ?_
    rw [f.fits_append clear]
    exact fit.1

/-- A spelling stays one with a run of marks behind. -/
theorem IsSpelling.backs {s : List Char} (h : IsSpelling s) (bs : List Back) :
    IsSpelling (s ++ backs bs) := by
  induction bs with
  | nil => rwa [Spelling.backs, List.append_nil]
  | cons b bs ih =>
    rw [Spelling.backs, ← List.append_assoc]
    exact ih.back b

/-- A spelling stays one with absent alternatives in front, each behind its own marks. -/
theorem IsSpelling.leading {s : List Char} (h : IsSpelling s) {before : List (List Front)}
    (fit : ∀ fs ∈ before, frontsFit fs = true) : IsSpelling (leading before ++ s) := by
  induction before with
  | nil => exact h
  | cons fs rest ih =>
    rw [List.forall_mem_cons] at fit
    rw [Spelling.leading, List.append_assoc, List.append_assoc]
    exact (ih fit.2).noneOr.fronts rfl fit.1

/-- A spelling stays one with absent alternatives behind, each in front of its own marks. -/
theorem IsSpelling.trailing {s : List Char} (h : IsSpelling s) (behind : List (List Back)) :
    IsSpelling (s ++ trailing behind) := by
  induction behind with
  | nil => rwa [Spelling.trailing, List.append_nil]
  | cons bs rest ih =>
    rw [Spelling.trailing, ← List.append_assoc, ← List.append_assoc]
    exact ih.orNone.backs bs

/-- The text of a proper row is a spelling. -/
theorem Row.isSpelling {r : Row} (h : r.IsProper) : IsSpelling r.text := by
  have core := Spelled.isSpelling h.core
  have clear := Core.beginsWithMark h.core (Spelling.backs r.back ++ Spelling.trailing r.behind)
  have behind := (core.backs r.back).trailing r.behind
  rw [List.append_assoc] at behind
  have := (behind.fronts clear h.front).leading h.before
  rw [Row.text, center]
  simpa only [List.append_assoc] using this

/-! ## What is outermost -/

namespace Row

/-- What a reader finds outermost: layers in front come first, then those behind, then the members
of a union, then what the core is. -/
inductive View : Row → Prop
  | front (r : Row) (f : Front) : View (r.pushFront f)
  | back (r : Row) (b : Back) (clear : r.firstFronts = []) : View (r.pushBack b)
  | union (r : Row) (clearFront : r.firstFronts = []) (clearBack : r.lastBacks = [])
      (members : r.before ≠ [] ∨ r.behind ≠ []) : View r
  | core (c : Core) : View { core := c }

theorem firstFronts_pushBack (r : Row) (b : Back) : (r.pushBack b).firstFronts = r.firstFronts := by
  unfold pushBack
  split <;> rfl

/-- Every row is one of the forms that the cases of a proof treat. -/
theorem view (r : Row) : r.View := by
  match r with
  | ⟨[], f :: fs, core, back, behind⟩ => exact .front ⟨[], fs, core, back, behind⟩ f
  | ⟨(f :: fs) :: rest, front, core, back, behind⟩ =>
    exact .front ⟨fs :: rest, front, core, back, behind⟩ f
  | ⟨[], [], core, b :: bs, []⟩ => exact .back ⟨[], [], core, bs, []⟩ b rfl
  | ⟨[], [], core, back, (b :: bs) :: rest⟩ => exact .back ⟨[], [], core, back, bs :: rest⟩ b rfl
  | ⟨[] :: rest, front, core, b :: bs, []⟩ => exact .back ⟨[] :: rest, front, core, bs, []⟩ b rfl
  | ⟨[] :: rest, front, core, back, (b :: bs) :: rest'⟩ =>
    exact .back ⟨[] :: rest, front, core, back, bs :: rest'⟩ b rfl
  | ⟨[] :: rest, front, core, [], []⟩ => exact .union _ rfl rfl (.inl (List.cons_ne_nil _ _))
  | ⟨[] :: rest, front, core, back, [] :: rest'⟩ =>
    exact .union _ rfl rfl (.inl (List.cons_ne_nil _ _))
  | ⟨[], [], core, back, [] :: rest⟩ => exact .union _ rfl rfl (.inr (List.cons_ne_nil _ _))
  | ⟨[], [], core, [], []⟩ => exact .core core

end Row

end Concord.Spelling
