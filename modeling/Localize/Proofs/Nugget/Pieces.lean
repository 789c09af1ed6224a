import Localize.Nugget.Scan
import Localize.Proofs.Text.Marks

/-!
# The pieces of a text

What a text is cut into is decided at each code point by `body?`.  This file says what `body?`
finds (`body?_eq_some_iff`), turns that into equations for `scan` on the three shapes a text can
have, and packs the three shapes into one induction, `scan_induction`, that every later proof about
scanning follows: the text is empty, or it starts with a code point that begins no nugget, or it
starts with a whole nugget.

## What is here

* `IsBody` — the texts that can stand between the two outer marks.
* `scan_cons_of_none`, `scan_nugget_append` — scanning a text by its start.
* `Located.shift` and `locate_scan` — the places of nuggets, and how they move along a text.
-/

set_option autoImplicit false

namespace Localize
namespace Nugget

open Text (StandsAt Clear)

/-! ## Marks of a nugget -/

@[simp] theorem length_openMark : openMark.length = 3 := rfl

@[simp] theorem length_closeMark : closeMark.length = 3 := rfl

theorem length_raw_ofBody (body : Text) : (ofBody body).raw.length = body.length + 6 := by
  rw [raw_ofBody, List.length_append, List.length_append, length_openMark, length_closeMark]
  omega

/-- What stands behind a body and its marks. -/
theorem drop_marks_append (body rest : Text) :
    (openMark ++ body ++ closeMark ++ rest).drop (body.length + 6) = rest := by
  rw [← raw_ofBody, ← length_raw_ofBody, List.drop_left]

/-- The opening mark stands at the start of no text that starts otherwise. -/
theorem not_openMark_prefix_cons {c : CodePoint} (hc : c ≠ CodePoint.ofChar '[') (t : Text) :
    ¬ openMark <+: c :: t :=
  fun h => hc (List.cons_prefix_cons.1 h).1.symm

theorem not_closeMark_prefix_cons {c : CodePoint} (hc : c ≠ CodePoint.ofChar ']') (t : Text) :
    ¬ closeMark <+: c :: t :=
  fun h => hc (List.cons_prefix_cons.1 h).1.symm

/-- A text without an opening bracket is clear of the opening mark. -/
theorem clear_openMark_of_not_mem {t : Text} (h : CodePoint.ofChar '[' ∉ t) :
    Clear openMark t := by
  induction t with
  | nil => exact Text.clear_nil
  | cons c t ih =>
    rw [List.mem_cons, not_or] at h
    exact Text.clear_cons_iff.2 ⟨fun _ => not_openMark_prefix_cons (Ne.symm h.1) _, ih h.2⟩

/-! ## Bodies -/

/-- A text that can be the body of a nugget: there is something, and no closing mark begins
before its end. -/
structure IsBody (body : Text) : Prop where
  ne_nil : body ≠ []
  clear : Clear closeMark body

/-- A code point other than the closing bracket can be put before a body. -/
theorem IsBody.cons {body : Text} (h : IsBody body) {c : CodePoint}
    (hc : c ≠ CodePoint.ofChar ']') : IsBody (c :: body) :=
  ⟨List.cons_ne_nil c body,
    Text.clear_cons_iff.2 ⟨fun _ => not_closeMark_prefix_cons hc _, h.clear⟩⟩

/-- **What `body?` finds**: the text starts with a body between its marks. -/
theorem body?_eq_some_iff {t body : Text} :
    body? t = some body ↔ IsBody body ∧ ∃ rest, t = openMark ++ body ++ closeMark ++ rest := by
  constructor
  · intro h
    refine ⟨?_, body?_eq_some h⟩
    rw [body?] at h
    split at h
    · rename_i c b rest hb
      cases h
      obtain ⟨inner, -, hclose⟩ := Option.bind_eq_some_iff.1 hb
      exact ⟨List.cons_ne_nil c b,
        Text.clear_of_breakOn (m := CodePoint.ofChar ']') (n := 3) (by decide) hclose⟩
    · cases h
  · rintro ⟨hbody, rest, rfl⟩
    obtain ⟨c, b, rfl⟩ := List.exists_cons_of_ne_nil hbody.ne_nil
    have hafter : Text.after? openMark (openMark ++ (c :: b) ++ closeMark ++ rest)
        = some ((c :: b) ++ closeMark ++ rest) := by
      rw [List.append_assoc, List.append_assoc, ← List.append_assoc (c :: b)]
      exact Text.after?_append _ _
    rw [body?, hafter, Option.bind_some, Text.breakOn_of_clear hbody.clear]

/-- Nothing is found where the opening mark does not stand. -/
theorem body?_eq_none_of_openMark_absent {t : Text} (h : ¬ openMark <+: t) : body? t = none := by
  rw [body?, Text.after?_eq_none_iff.2 h]
  rfl

theorem body?_cons_of_ne {c : CodePoint} (hc : c ≠ CodePoint.ofChar '[') (t : Text) :
    body? (c :: t) = none :=
  body?_eq_none_of_openMark_absent (not_openMark_prefix_cons hc t)

/-- Behind an opening mark nothing is found when no closing mark follows, or one follows at
once. -/
theorem of_body?_openMark_append_eq_none {u : Text} (h : body? (openMark ++ u) = none) :
    ¬ closeMark <:+: u ∨ closeMark <+: u := by
  rw [body?, Text.after?_append, Option.bind_some] at h
  cases hb : Text.breakOn closeMark u with
  | none => exact Or.inl (Text.breakOn_eq_none_iff.1 hb)
  | some cut =>
    obtain ⟨a, b⟩ := cut
    obtain ⟨rfl, -⟩ := Text.breakOn_eq_some_iff.1 hb
    cases a with
    | nil => exact Or.inr (List.prefix_append closeMark b)
    | cons c a => rw [hb] at h; cases h

/-- An opening bracket before a nugget belongs to a nugget itself. -/
theorem body?_open_cons {body : Text} (h : IsBody body) (rest : Text) :
    body? (CodePoint.ofChar '[' :: (openMark ++ body ++ closeMark ++ rest)) ≠ none := by
  have hfound : body? (CodePoint.ofChar '[' :: (openMark ++ body ++ closeMark ++ rest))
      = some (CodePoint.ofChar '[' :: body) :=
    body?_eq_some_iff.2 ⟨h.cons (by decide), rest, rfl⟩
  rw [hfound]
  exact Option.some_ne_none _

/-! ## The text of pieces -/

theorem sourceOf_append (ps qs : List Piece) : sourceOf (ps ++ qs) = sourceOf ps ++ sourceOf qs :=
  List.flatMap_append

theorem sourceOf_cons (piece : Piece) (ps : List Piece) :
    sourceOf (piece :: ps) = piece.source ++ sourceOf ps :=
  List.flatMap_cons

@[simp] theorem sourceOf_map_plain (t : Text) : sourceOf (t.map .plain) = t := by
  induction t with
  | nil => rfl
  | cons c t ih => rw [List.map_cons, sourceOf_cons, ih]; rfl

/-- There is no nugget among plain code points. -/
theorem nugget_not_mem_map_plain {n : Nugget} {t : Text} : .nugget n ∉ t.map Piece.plain := by
  rintro h
  obtain ⟨c, -, hc⟩ := List.mem_map.1 h
  cases hc

/-! ## Scanning by the start of the text -/

/-- Where nothing is found, the code point is plain. -/
theorem scan_cons_of_none {c : CodePoint} {t : Text} (h : body? (c :: t) = none) :
    scan (c :: t) = .plain c :: scan t := by
  rw [scan, scanFrom, h]
  rfl

/-- A body between its marks is a nugget, and reading goes on behind it. -/
theorem scan_nugget_append {body : Text} (h : IsBody body) (rest : Text) :
    scan (openMark ++ body ++ closeMark ++ rest) = .nugget (ofBody body) :: scan rest := by
  have hfound := body?_eq_some_iff.2 ⟨h, rest, rfl⟩
  have hcons : openMark ++ body ++ closeMark ++ rest
      = CodePoint.ofChar '[' :: ((openMark ++ body ++ closeMark ++ rest).drop 1) := rfl
  have hdrop : ((openMark ++ body ++ closeMark ++ rest).drop 1).drop (body.length + 5) = rest := by
    rw [List.drop_drop, Nat.add_comm 1]
    exact drop_marks_append body rest
  rw [hcons] at hfound ⊢
  rw [scan, scanFrom, hfound]
  dsimp only
  rw [scanFrom_eq_scanFrom_drop, hdrop]
  rfl

/-- **The induction every proof about scanning follows**: a text is empty, or starts with a code
point that begins no nugget, or starts with a nugget. -/
@[elab_as_elim]
theorem scan_induction {motive : Text → Prop} (t : Text) (nil : motive [])
    (plain : ∀ c t, body? (c :: t) = none → motive t → motive (c :: t))
    (nugget : ∀ body rest, IsBody body → motive rest →
      motive (openMark ++ body ++ closeMark ++ rest)) : motive t := by
  induction hn : t.length using Nat.strongRecOn generalizing t with
  | ind n ih =>
    subst hn
    cases t with
    | nil => exact nil
    | cons c t =>
      cases hb : body? (c :: t) with
      | none => exact plain c t hb (ih t.length (by simp) t rfl)
      | some body =>
        obtain ⟨hbody, rest, ht⟩ := body?_eq_some_iff.1 hb
        have hshort : rest.length < (c :: t).length := by
          rw [ht]
          simp only [List.length_append, length_openMark]
          omega
        rw [ht]
        exact nugget body rest hbody (ih rest.length hshort rest rfl)

/-! ## Places -/

/-- The same nugget, found further along. -/
def Located.shift (k : Nat) (l : Located) : Located := { l with start := k + l.start }

@[simp] theorem Located.nugget_shift (k : Nat) (l : Located) : (l.shift k).nugget = l.nugget := rfl

@[simp] theorem Located.start_shift (k : Nat) (l : Located) : (l.shift k).start = k + l.start :=
  rfl

@[simp] theorem Located.stop_shift (k : Nat) (l : Located) : (l.shift k).stop = k + l.stop :=
  Nat.add_assoc k l.start l.nugget.raw.length

theorem locate_add (k pos : Nat) (ps : List Piece) :
    locate (k + pos) ps = (locate pos ps).map (Located.shift k) := by
  induction ps generalizing pos with
  | nil => rfl
  | cons piece ps ih =>
    cases piece with
    | plain c => rw [locate, locate, Nat.add_assoc, ih]
    | nugget n => rw [locate, locate, Nat.add_assoc, ih]; rfl

/-- Nuggets further along a text are the nuggets of the rest, moved. -/
theorem locate_scan (k : Nat) (t : Text) :
    locate k (scan t) = (nuggets t).map (Located.shift k) :=
  locate_add k 0 (scan t)

theorem locate_append (pos : Nat) (ps qs : List Piece) :
    locate pos (ps ++ qs) = locate pos ps ++ locate (pos + (sourceOf ps).length) qs := by
  induction ps generalizing pos with
  | nil => rfl
  | cons piece ps ih =>
    rw [sourceOf_cons, List.length_append, ← Nat.add_assoc]
    cases piece with
    | plain c => exact ih (pos + 1)
    | nugget n => exact congrArg (⟨n, pos⟩ :: ·) (ih (pos + n.raw.length))

/-- A nugget that is found is one of the pieces, behind pieces that take up the text before it. -/
theorem exists_of_locate_eq_append_cons {pos : Nat} {ps : List Piece} {ls ms : List Located}
    {l : Located} (h : locate pos ps = ls ++ l :: ms) :
    ∃ qs rs, ps = qs ++ .nugget l.nugget :: rs ∧ ls = locate pos qs ∧
      l.start = pos + (sourceOf qs).length ∧ ms = locate l.stop rs := by
  induction ps generalizing pos ls with
  | nil => cases ls <;> cases h
  | cons piece ps ih =>
    cases piece with
    | plain c =>
      obtain ⟨qs, rs, rfl, hls, hstart, hms⟩ := ih h
      refine ⟨.plain c :: qs, rs, rfl, hls, ?_, hms⟩
      rw [hstart, sourceOf_cons, List.length_append, ← Nat.add_assoc]
      rfl
    | nugget n =>
      rw [locate] at h
      cases ls with
      | nil =>
        obtain ⟨rfl, rfl⟩ := List.cons.inj h
        exact ⟨[], ps, rfl, rfl, rfl, rfl⟩
      | cons k ls =>
        obtain ⟨rfl, hrest⟩ := List.cons.inj h
        obtain ⟨qs, rs, rfl, rfl, hstart, hms⟩ := ih hrest
        refine ⟨.nugget n :: qs, rs, rfl, rfl, ?_, hms⟩
        rw [hstart, sourceOf_cons, List.length_append, ← Nat.add_assoc]
        rfl

theorem locate_map_plain_append (pos : Nat) (a : Text) (ps : List Piece) :
    locate pos (a.map .plain ++ ps) = locate (pos + a.length) ps := by
  induction a generalizing pos with
  | nil => rfl
  | cons c a ih =>
    rw [List.map_cons, List.cons_append, locate, ih, List.length_cons]
    congr 1
    omega

theorem map_nugget_locate (pos : Nat) (ps : List Piece) :
    (locate pos ps).map Located.nugget = ps.filterMap Piece.nugget? := by
  induction ps generalizing pos with
  | nil => rfl
  | cons piece ps ih =>
    cases piece with
    | plain c => exact ih (pos + 1)
    | nugget n => rw [locate, List.map_cons, ih]; rfl

/-- **The nuggets of a text without their places** are those among its pieces. -/
theorem map_nugget_nuggets (t : Text) :
    (nuggets t).map Located.nugget = (scan t).filterMap Piece.nugget? :=
  map_nugget_locate 0 (scan t)

/-- A nugget is found in a text exactly when it is one of its pieces. -/
theorem mem_scan_iff {t : Text} {n : Nugget} :
    .nugget n ∈ scan t ↔ ∃ l ∈ nuggets t, l.nugget = n := by
  rw [← List.mem_map, map_nugget_nuggets, List.mem_filterMap]
  constructor
  · intro h
    exact ⟨.nugget n, h, rfl⟩
  · rintro ⟨piece, h, hn⟩
    cases piece with
    | plain c => cases hn
    | nugget m => cases hn; exact h

theorem exists_eq_append_of_mem_locate {a t : Text} {l : Located}
    (h : l ∈ locate a.length (scan t)) :
    ∃ b body rest, a ++ t = b ++ (openMark ++ body ++ closeMark ++ rest) ∧ IsBody body ∧
      l = ⟨ofBody body, b.length⟩ := by
  induction t using scan_induction generalizing a with
  | nil => cases h
  | plain c t hnone ih =>
    rw [scan_cons_of_none hnone, locate] at h
    have hnext : l ∈ locate (a ++ [c]).length (scan t) := by rwa [List.length_append]
    obtain ⟨b, body, rest, ht, hl⟩ := ih hnext
    exact ⟨b, body, rest, by rw [← ht, List.append_assoc]; rfl, hl⟩
  | nugget body rest hbody ih =>
    rw [scan_nugget_append hbody, locate] at h
    rcases List.mem_cons.1 h with rfl | h
    · exact ⟨a, body, rest, rfl, hbody, rfl⟩
    · have hnext : l ∈ locate (a ++ (openMark ++ body ++ closeMark)).length (scan rest) := by
        rwa [List.length_append, ← raw_ofBody]
      obtain ⟨b, body', rest', ht, hl⟩ := ih hnext
      exact ⟨b, body', rest', by rw [← ht, List.append_assoc a], hl⟩

/-- **Where a nugget is found**: the text up to its place, the body between the marks, and the
rest of the text. -/
theorem exists_eq_append_of_mem_nuggets {t : Text} {l : Located} (h : l ∈ nuggets t) :
    ∃ a body rest, t = a ++ (openMark ++ body ++ closeMark ++ rest) ∧ IsBody body ∧
      l = ⟨ofBody body, a.length⟩ :=
  exists_eq_append_of_mem_locate (a := []) h

/-- A nugget that is found is the nugget of a body. -/
theorem exists_isBody_of_mem_scan {t : Text} {n : Nugget} (h : .nugget n ∈ scan t) :
    ∃ body, IsBody body ∧ n = ofBody body := by
  obtain ⟨l, hl, rfl⟩ := mem_scan_iff.1 h
  obtain ⟨-, body, -, -, hbody, rfl⟩ := exists_eq_append_of_mem_nuggets hl
  exact ⟨body, hbody, rfl⟩

end Nugget
end Localize
