import Localize.Proofs.Nugget.Body
import Localize.Proofs.Nugget.Pieces
import Localize.Proofs.Text.LineEnds

/-!
# Nuggets of texts with other line ends

A line end can stand in the key, in the arguments and in the comment, and its two code points can
fall to different readers: the first code point after a mark is passed over unlooked at, and with a
carriage return before it, a line feed is no longer that first one.  It makes no difference, because
neither of the two begins a mark.  So a body with other line ends is cut where the body is
(`segment_crlf`, `region_crlf`), and only the key is brought back to line feeds (`ofBody_crlf`).

* `scan_crlf` — the pieces of the text with other line ends.
* `nuggets_crlf` — its nuggets, one for one, and where they stand.
-/

set_option autoImplicit false

namespace Localize
namespace Nugget

/-! ## Separators -/

theorem separator?_lf_cons (t : Text) : separator? (CodePoint.ofChar '\n' :: t) = none := rfl

/-- Something with other line ends is something. -/
theorem filter_map_crlf (o : Option Text) :
    (o.map Text.crlf).filter (· ≠ []) = (o.filter (· ≠ [])).map Text.crlf := by
  cases o with
  | none => rfl
  | some t => by_cases ht : t = [] <;> simp [Option.filter_some, ht]

/-- **A separator is the same separator**, and what stands behind it has the other line ends. -/
theorem separator?_crlf (t : Text) :
    separator? (Text.crlf t) = (separator? t).map (Prod.map id Text.crlf) := by
  rw [separator?_eq, separator?_eq, Text.after?_crlf (by decide) (by decide),
    Text.after?_crlf (by decide) (by decide), filter_map_crlf, filter_map_crlf, Option.map_or,
    Option.map_map, Option.map_map, Option.map_map, Option.map_map]
  rfl

/-! ## The key -/

/-- **The key** ends at the same separator. -/
theorem segment_crlf (t : Text) :
    segment (Text.crlf t)
      = Prod.map Text.crlf (Option.map (Prod.map id Text.crlf)) (segment t) := by
  induction t with
  | nil => rfl
  | cons c t ih =>
    have hsep' := separator?_crlf t
    by_cases hc : c = CodePoint.ofChar '\n'
    · subst hc
      rw [Text.crlf_lf_cons, segment_cons_of_none (separator?_lf_cons _)]
      cases hsep : separator? t with
      | some cut =>
        rw [hsep] at hsep'
        rw [segment_cons_of_some hsep, segment_cons_of_some hsep']
        rfl
      | none =>
        rw [hsep] at hsep'
        rw [segment_cons_of_none hsep, segment_cons_of_none hsep', ih]
        exact Prod.ext (Text.crlf_lf_cons _).symm rfl
    · rw [Text.crlf_cons_of_ne hc]
      cases hsep : separator? t with
      | some cut =>
        rw [hsep] at hsep'
        rw [segment_cons_of_some hsep, segment_cons_of_some hsep']
        exact Prod.ext (Text.crlf_cons_of_ne hc []).symm rfl
      | none =>
        rw [hsep] at hsep'
        rw [segment_cons_of_none hsep, segment_cons_of_none hsep', ih]
        exact Prod.ext (Text.crlf_cons_of_ne hc _).symm rfl

/-- The key is made of code points of the body. -/
theorem segment_subset (t : Text) : (segment t).1 ⊆ t := by
  induction t with
  | nil => exact List.Subset.refl []
  | cons c t ih =>
    cases hsep : separator? t with
    | some cut =>
      rw [segment_cons_of_some hsep]
      exact List.cons_subset_cons c (List.nil_subset t)
    | none =>
      rw [segment_cons_of_none hsep]
      exact List.cons_subset_cons c ih

theorem keyOf_cons_of_ne {c : CodePoint} (hc : c ≠ CodePoint.ofChar '\r') (t : Text) :
    keyOf (c :: t) = c :: keyOf t := by
  rw [keyOf]
  rintro u rfl
  exact absurd rfl hc

/-- A text without carriage returns is its own key, and that of the text with other line ends. -/
theorem keyOf_of_not_mem {t : Text} (h : CodePoint.ofChar '\r' ∉ t) : keyOf t = t := by
  induction t with
  | nil => rfl
  | cons c t ih =>
    rw [List.mem_cons, not_or] at h
    rw [keyOf_cons_of_ne (Ne.symm h.1), ih h.2]

/-- A text in which no line feed follows a carriage return is its own key. -/
theorem keyOf_of_no_crlf {t : Text}
    (h : ¬ [CodePoint.ofChar '\r', CodePoint.ofChar '\n'] <:+: t) : keyOf t = t := by
  induction t with
  | nil => rfl
  | cons c t ih =>
    rw [List.infix_cons_iff, not_or] at h
    rw [keyOf, ih h.2]
    rintro rest rfl rfl
    exact h.1 ⟨rest, rfl⟩

theorem keyOf_crlf {t : Text} (h : CodePoint.ofChar '\r' ∉ t) : keyOf (Text.crlf t) = t := by
  induction t with
  | nil => rfl
  | cons c t ih =>
    rw [List.mem_cons, not_or] at h
    by_cases hc : c = CodePoint.ofChar '\n'
    · subst hc
      rw [Text.crlf_lf_cons]
      exact congrArg (CodePoint.ofChar '\n' :: ·) (ih h.2)
    · rw [Text.crlf_cons_of_ne hc, keyOf_cons_of_ne (Ne.symm h.1), ih h.2]

/-! ## The arguments and the comment -/

/-- **The walk over the arguments** ends at the same comment.  Where one code point is owed, it may
be a line feed; the carriage return is what is owed then, and the line feed begins no separator. -/
theorem region_crlf (t : Text) :
    region 0 (Text.crlf t) = Prod.map Text.crlf (Option.map Text.crlf) (region 0 t) ∧
      region 1 (Text.crlf t) = Prod.map Text.crlf (Option.map Text.crlf) (region 1 t) := by
  induction hlen : t.length using Nat.strongRecOn generalizing t with
  | ind k ih =>
    subst hlen
    cases t with
    | nil => exact ⟨rfl, rfl⟩
    | cons c t =>
      obtain ⟨hzero, -⟩ := ih t.length (by simp) t rfl
      by_cases hc : c = CodePoint.ofChar '\n'
      · subst hc
        have hcr : separator? (CodePoint.ofChar '\r' :: CodePoint.ofChar '\n' :: Text.crlf t)
            = none := rfl
        rw [Text.crlf_lf_cons, region_zero_cons_of_none hcr, region_succ_cons, region_succ_cons,
          region_zero_cons_of_none (separator?_lf_cons _),
          region_zero_cons_of_none (separator?_lf_cons _), hzero]
        exact ⟨Prod.ext (Text.crlf_lf_cons _).symm rfl, Prod.ext (Text.crlf_lf_cons _).symm rfl⟩
      · have hsep' := separator?_crlf (c :: t)
        refine ⟨?_, ?_⟩
        · cases hsep : separator? (c :: t) with
          | none =>
            rw [hsep, Text.crlf_cons_of_ne hc] at hsep'
            rw [Text.crlf_cons_of_ne hc, region_zero_cons_of_none hsep,
              region_zero_cons_of_none hsep', hzero]
            exact Prod.ext (Text.crlf_cons_of_ne hc _).symm rfl
          | some cut =>
            obtain ⟨sep, u⟩ := cut
            obtain ⟨hu, ht⟩ := separator?_eq_some_iff.1 hsep
            have hu' : Text.crlf u ≠ [] := mt Text.crlf_eq_nil_iff.1 hu
            rw [ht, Text.crlf_append]
            cases sep with
            | comment =>
              show region 0 (commentMark ++ Text.crlf u) = _
              rw [region_commentMark_append hu', Separator.mark, region_commentMark_append hu]
              rfl
            | argument =>
              have hshort : u.length < (c :: t).length := by
                rw [ht, List.length_append, Separator.length_mark]
                omega
              show region 0 (argumentMark ++ Text.crlf u) = _
              rw [region_argumentMark_append hu', Separator.mark, region_argumentMark_append hu,
                (ih u.length hshort u rfl).2]
              exact Prod.ext (Text.crlf_append argumentMark _).symm rfl
        · rw [Text.crlf_cons_of_ne hc, region_succ_cons, region_succ_cons, hzero]
          exact Prod.ext (Text.crlf_cons_of_ne hc _).symm rfl

/-! ## Bodies -/

/-- The nugget with the other line ends.  The key keeps its own. -/
def crlf (n : Nugget) : Nugget where
  raw := Text.crlf n.raw
  text := Text.crlf n.text
  key := n.key
  args := n.args.map Text.crlf
  comment := n.comment.map Text.crlf

/-- **A body with other line ends** is read as the body is. -/
theorem ofBody_crlf {body : Text} (h : CodePoint.ofChar '\r' ∉ body) :
    ofBody (Text.crlf body) = (ofBody body).crlf := by
  have hraw : openMark ++ Text.crlf body ++ closeMark
      = Text.crlf (openMark ++ body ++ closeMark) := by
    rw [Text.crlf_append, Text.crlf_append]
    rfl
  have hkey : keyOf (Text.crlf (segment body).1) = keyOf (segment body).1 := by
    have htext : CodePoint.ofChar '\r' ∉ (segment body).1 :=
      fun hmem => h (segment_subset body hmem)
    rw [keyOf_crlf htext, keyOf_of_not_mem htext]
  have hsegment := segment_crlf body
  cases hseg : segment body with
  | mk text cut =>
    rw [hseg] at hkey hsegment
    cases cut with
    | none =>
      rw [ofBody_of_none hseg, ofBody_of_none hsegment, hraw, hkey]
      rfl
    | some cut =>
      obtain ⟨sep, rest⟩ := cut
      cases sep with
      | comment =>
        rw [ofBody_of_comment hseg, ofBody_of_comment hsegment, hraw, hkey]
        rfl
      | argument =>
        have hargs : Text.splitOn argumentMark (Text.crlf (region 1 rest).1)
            = (Text.splitOn argumentMark (region 1 rest).1).map Text.crlf :=
          Text.splitOn_crlf (n := 3) (by decide) (by decide) (by decide) _
        rw [ofBody_of_argument hseg, ofBody_of_argument hsegment, hraw, hkey, (region_crlf rest).2]
        dsimp only [Prod.map]
        rw [hargs]
        rfl

/-- The body a text starts with is what stands between the marks, if that is something. -/
theorem body?_eq (t : Text) : body? t
    = (((Text.after? openMark t).bind (Text.breakOn closeMark)).map Prod.fst).filter (· ≠ []) := by
  rw [body?]
  rcases (Text.after? openMark t).bind (Text.breakOn closeMark) with
    _ | ⟨_ | ⟨c, body⟩, rest⟩ <;> rfl

/-- **A text starts with a body** when it does so with the other line ends. -/
theorem body?_crlf (t : Text) : body? (Text.crlf t) = (body? t).map Text.crlf := by
  have hbreak : ∀ u, Text.breakOn closeMark (Text.crlf u)
      = (Text.breakOn closeMark u).map (Prod.map Text.crlf Text.crlf) :=
    Text.breakOn_crlf (by decide) (by decide) (by decide)
  rw [body?_eq, body?_eq, Text.after?_crlf (by decide) (by decide), ← filter_map_crlf]
  congr 1
  cases Text.after? openMark t with
  | none => rfl
  | some u =>
    rw [Option.map_some, Option.bind_some, Option.bind_some, hbreak]
    cases Text.breakOn closeMark u <;> rfl

end Nugget

/-! ## Texts -/

/-- The pieces that a piece becomes with the other line ends. -/
def Piece.crlf : Piece → List Piece
  | .plain c => (Text.crlfOne c).map .plain
  | .nugget n => [.nugget n.crlf]

@[simp] theorem Piece.sourceOf_crlf (piece : Piece) :
    Nugget.sourceOf piece.crlf = Text.crlf piece.source := by
  cases piece with
  | plain c =>
    rw [Piece.crlf, Nugget.sourceOf_map_plain, Piece.source, Text.crlf_eq_flatMap]
    exact (List.append_nil _).symm
  | nugget n => exact List.append_nil _

namespace Nugget

/-- A code point that begins no nugget becomes code points that begin none. -/
theorem scan_crlf_cons {c : CodePoint} {t : Text} (h : body? (c :: t) = none) :
    scan (Text.crlf (c :: t)) = (Text.crlfOne c).map .plain ++ scan (Text.crlf t) := by
  by_cases hc : c = CodePoint.ofChar '\n'
  · subst hc
    rw [Text.crlf_lf_cons, scan_cons_of_none (body?_cons_of_ne (by decide) _),
      scan_cons_of_none (body?_cons_of_ne (by decide) _)]
    rfl
  · have hnone : body? (c :: Text.crlf t) = none := by
      rw [← Text.crlf_cons_of_ne hc, body?_crlf, h]
      rfl
    rw [Text.crlf_cons_of_ne hc, scan_cons_of_none hnone, Text.crlfOne_of_ne hc]
    rfl

/-- **The pieces of a text with other line ends** are the pieces of the text with other line
ends. -/
theorem scan_crlf {t : Text} (h : CodePoint.ofChar '\r' ∉ t) :
    scan (Text.crlf t) = (scan t).flatMap Piece.crlf := by
  induction t using scan_induction with
  | nil => rfl
  | plain c t hnone ih =>
    rw [List.mem_cons, not_or] at h
    rw [scan_crlf_cons hnone, scan_cons_of_none hnone, ih h.2]
    rfl
  | nugget body rest hbody ih =>
    simp only [List.mem_append, not_or] at h
    have hmarks : Text.crlf (openMark ++ body ++ closeMark ++ rest)
        = openMark ++ Text.crlf body ++ closeMark ++ Text.crlf rest := by
      rw [Text.crlf_append, Text.crlf_append, Text.crlf_append]
      rfl
    have hfound := body?_crlf (openMark ++ body ++ closeMark ++ rest)
    rw [body?_eq_some_iff.2 ⟨hbody, rest, rfl⟩, Option.map_some] at hfound
    rw [hmarks, scan_nugget_append (body?_eq_some_iff.1 hfound).1, scan_nugget_append hbody,
      ofBody_crlf h.1.1.2, ih h.2]
    rfl

/-- Places among pieces with other line ends.  `a` is what stands before the pieces. -/
theorem locate_crlf (a : Text) (ps : List Piece) :
    locate (Text.crlf a).length (ps.flatMap Piece.crlf)
      = (locate a.length ps).map fun l =>
        ⟨l.nugget.crlf, (Text.crlf ((a ++ sourceOf ps).take l.start)).length⟩ := by
  induction ps generalizing a with
  | nil => rfl
  | cons piece ps ih =>
    have hnext := ih (a ++ piece.source)
    rw [List.flatMap_cons, locate_append, Piece.sourceOf_crlf, ← List.length_append,
      ← Text.crlf_append, hnext, sourceOf_cons, List.append_assoc, List.length_append]
    cases piece with
    | plain c =>
      have hplain := locate_map_plain_append (Text.crlf a).length (Text.crlfOne c) []
      rw [List.append_nil] at hplain
      rw [Piece.crlf, hplain]
      rfl
    | nugget n =>
      rw [locate, List.map_cons, List.take_left]
      rfl

/-- **The nuggets of a text with other line ends** are the nuggets of the text with other line
ends, each behind what stood before it. -/
theorem nuggets_crlf {t : Text} (h : CodePoint.ofChar '\r' ∉ t) :
    nuggets (Text.crlf t) = (nuggets t).map fun l =>
      ⟨l.nugget.crlf, (Text.crlf (t.take l.start)).length⟩ := by
  have hlocate := locate_crlf [] (scan t)
  rw [sourceOf_scan, List.nil_append] at hlocate
  rw [nuggets, scan_crlf h]
  exact hlocate

end Nugget
end Localize
