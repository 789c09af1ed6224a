import Localize.Proofs.Nugget.Body
import Localize.Proofs.Nugget.Settled

/-!
# Another comment in a nugget

The comment is the end of a body.  Everything before it is read without looking at it: a separator
is three code points, and of what follows it only has to be known that there is something.  So a
comment can be exchanged for another one, and the key and the arguments are read as before, whatever
separators or opening marks the new comment holds (`ofBody_of_comment_eq`).

In a text the exchange leaves the other nuggets alone as well.  Those before it are settled, and
those behind it only move (`nuggets_withComment`).
-/

set_option autoImplicit false

namespace Localize
namespace Nugget

open Text (Clear)

/-! ## Bodies -/

/-- What ends the key is its separator, and what stands behind that is not looked at. -/
theorem of_segment_eq_some {body text rest : Text} {sep : Separator}
    (h : segment body = (text, some (sep, rest))) :
    rest ≠ [] ∧ body = text ++ (sep.mark ++ rest) ∧
      ∀ rest', rest' ≠ [] → segment (text ++ (sep.mark ++ rest')) = (text, some (sep, rest')) := by
  induction body generalizing text with
  | nil => cases h
  | cons c body ih =>
    cases hsep : separator? body with
    | some cut =>
      rw [segment_cons_of_some hsep] at h
      cases h
      obtain ⟨hne, rfl⟩ := separator?_eq_some_iff.1 hsep
      exact ⟨hne, rfl, fun rest' hne' =>
        segment_cons_of_some (separator?_eq_some_iff.2 ⟨hne', rfl⟩)⟩
    | none =>
      rw [segment_cons_of_none hsep] at h
      obtain ⟨rfl, hcut⟩ := Prod.mk.inj h
      obtain ⟨hne, hbody, hsegment⟩ := ih (Prod.ext rfl hcut)
      refine ⟨hne, congrArg (c :: ·) hbody, fun rest' hne' => ?_⟩
      have hlen : 3 ≤ ((segment body).1 ++ sep.mark).length := by
        rw [List.length_append, Separator.length_mark]
        omega
      rw [hbody, ← List.append_assoc] at hsep
      have hnone := separator?_append_eq_none hlen hne hne' hsep
      rw [List.append_assoc] at hnone
      rw [List.cons_append, segment_cons_of_none hnone, hsegment rest' hne']

/-- The walk over the arguments ends at the comment, and does not look at it. -/
theorem of_region_eq_some {owed : Nat} {t args c : Text} (h : region owed t = (args, some c)) :
    c ≠ [] ∧ t = args ++ (commentMark ++ c) ∧
      ∀ d, d ≠ [] → region owed (args ++ (commentMark ++ d)) = (args, some d) := by
  induction t generalizing owed args with
  | nil => cases owed <;> cases h
  | cons x t ih =>
    cases owed with
    | succ owed =>
      rw [region_succ_cons] at h
      obtain ⟨rfl, hcomment⟩ := Prod.mk.inj h
      obtain ⟨hne, ht, hregion⟩ := ih (Prod.ext rfl hcomment)
      refine ⟨hne, congrArg (x :: ·) ht, fun d hd => ?_⟩
      rw [List.cons_append, region_succ_cons, hregion d hd]
    | zero =>
      cases hsep : separator? (x :: t) with
      | none =>
        rw [region_zero_cons_of_none hsep] at h
        obtain ⟨rfl, hcomment⟩ := Prod.mk.inj h
        obtain ⟨hne, ht, hregion⟩ := ih (Prod.ext rfl hcomment)
        refine ⟨hne, congrArg (x :: ·) ht, fun d hd => ?_⟩
        have hnone : separator? (x :: ((region 0 t).1 ++ (commentMark ++ d))) = none := by
          rw [ht, ← List.append_assoc, ← List.cons_append] at hsep
          rw [← List.append_assoc, ← List.cons_append]
          exact separator?_append_eq_none (by simp [commentMark, Text.ofChars]) hne hd hsep
        rw [List.cons_append, region_zero_cons_of_none hnone, hregion d hd]
      | some cut =>
        obtain ⟨sep, u⟩ := cut
        cases sep with
        | comment =>
          rw [region, hsep] at h
          cases h
          obtain ⟨hne, ht⟩ := separator?_eq_some_iff.1 hsep
          exact ⟨hne, ht, fun d hd => region_commentMark_append hd⟩
        | argument =>
          rw [region_zero_cons_of_argument hsep] at h
          obtain ⟨rfl, hcomment⟩ := Prod.mk.inj h
          obtain ⟨hne, ht, hregion⟩ := ih (Prod.ext rfl hcomment)
          refine ⟨hne, congrArg (x :: ·) ht, fun d hd => ?_⟩
          have hlen : 3 ≤ (x :: ((region 3 t).1 ++ commentMark)).length := by
            simp [commentMark, Text.ofChars]
          rw [ht, ← List.append_assoc, ← List.cons_append] at hsep
          obtain ⟨v, hv, -⟩ := (separator?_append_eq_some_iff hlen hne).1 hsep
          have hsome := (separator?_append_eq_some_iff hlen hd).2 ⟨v, hv, rfl⟩
          rw [List.cons_append, List.append_assoc] at hsome
          rw [List.cons_append, region_zero_cons_of_argument hsome, hregion d hd]

/-- **Another comment in a body** changes the comment alone, and the text of the nugget. -/
theorem ofBody_of_comment_eq {body c : Text} (h : (ofBody body).comment = some c) :
    ∃ a, body = a ++ (commentMark ++ c) ∧ ∀ d, d ≠ [] → ofBody (a ++ (commentMark ++ d))
      = { ofBody body with
          raw := openMark ++ (a ++ (commentMark ++ d)) ++ closeMark, comment := some d } := by
  cases hseg : segment body with
  | mk text cut =>
    cases cut with
    | none =>
      rw [ofBody_of_none hseg] at h
      cases h
    | some cut =>
      obtain ⟨sep, rest⟩ := cut
      obtain ⟨hne, hbody, hsegment⟩ := of_segment_eq_some hseg
      cases sep with
      | comment =>
        rw [ofBody_of_comment hseg] at h ⊢
        cases h
        exact ⟨text, hbody, fun d hd => ofBody_of_comment (hsegment d hd)⟩
      | argument =>
        rw [ofBody_of_argument hseg] at h ⊢
        obtain ⟨hc, hrest, hregion⟩ := of_region_eq_some (Prod.ext rfl h)
        refine ⟨text ++ (argumentMark ++ (region 1 rest).1), ?_, fun d hd => ?_⟩
        · rw [hbody, List.append_assoc, List.append_assoc, ← hrest]
          rfl
        · have hne' : (region 1 rest).1 ++ (commentMark ++ d) ≠ [] := by
            simp [commentMark, Text.ofChars]
          have hbody' : text ++ (argumentMark ++ (region 1 rest).1) ++ (commentMark ++ d)
              = text ++ (Separator.argument.mark ++ ((region 1 rest).1 ++ (commentMark ++ d))) := by
            rw [List.append_assoc, List.append_assoc]
            rfl
          rw [hbody', ofBody_of_argument (hsegment _ hne'), hregion d hd]

/-- The body with another comment is a body. -/
theorem isBody_comment {a c d : Text} (h : IsBody (a ++ (commentMark ++ c)))
    (hd : Clear closeMark d) : IsBody (a ++ (commentMark ++ d)) := by
  have hmark : ∀ u : Text, a ++ (commentMark ++ u)
      = a ++ CodePoint.ofChar '/' :: CodePoint.ofChar '/' :: CodePoint.ofChar '/' :: u :=
    fun _ => rfl
  have hsplit := h.clear
  rw [hmark, Text.clear_append_cons_iff (by decide) (by decide)] at hsplit
  refine ⟨by simp [commentMark, Text.ofChars], ?_⟩
  rw [hmark, Text.clear_append_cons_iff (by decide) (by decide)]
  refine ⟨hsplit.1, Text.clear_cons_iff.2 ⟨fun _ => not_closeMark_prefix_cons (by decide) _, ?_⟩⟩
  exact Text.clear_cons_iff.2 ⟨fun _ => not_closeMark_prefix_cons (by decide) _, hd⟩

/-! ## Texts -/

/-- A text with `d` in the place of the comment `c` that ends before the closing mark of a nugget
that stops at `stop`. -/
def withComment (t : Text) (stop : Nat) (c d : Text) : Text :=
  t.take (stop - 3 - c.length) ++ d ++ t.drop (stop - 3)

section

variable (a c d rest : Text)

theorem extract_comment : (a ++ (c ++ (closeMark ++ rest))).extract
    (a.length + c.length + 3 - 3 - c.length) (a.length + c.length + 3 - 3) = c := by
  rw [Nat.add_sub_cancel, Nat.add_sub_cancel, List.extract_eq_take_drop, List.drop_left,
    Nat.add_sub_cancel_left, List.take_left]

theorem withComment_append :
    withComment (a ++ (c ++ (closeMark ++ rest))) (a.length + c.length + 3) c d
      = a ++ (d ++ (closeMark ++ rest)) := by
  have hdrop : (a ++ (c ++ (closeMark ++ rest))).drop (a.length + c.length)
      = closeMark ++ rest := by
    rw [← List.append_assoc, ← List.length_append, List.drop_left]
  rw [withComment, Nat.add_sub_cancel, Nat.add_sub_cancel, List.take_left, hdrop, List.append_assoc]

end

/-- A text around the comment of a nugget. -/
theorem append_raw_eq (b a c rest : Text) :
    b ++ (openMark ++ (a ++ (commentMark ++ c)) ++ closeMark ++ rest)
      = b ++ (openMark ++ (a ++ commentMark)) ++ (c ++ (closeMark ++ rest)) := by
  simp only [List.append_assoc]

/-- **Another comment in a text**: the nugget gets the new comment, and every other piece stays as
it is. -/
theorem scan_withComment {t c d : Text} {ps qs : List Piece} {n : Nugget} {stop : Nat}
    (h : scan t = ps ++ .nugget n :: qs) (hstop : stop = (sourceOf ps).length + n.raw.length)
    (hc : n.comment = some c) (hd : d ≠ []) (hclear : Clear closeMark d) :
    t.extract (stop - 3 - c.length) (stop - 3) = c ∧
      scan (withComment t stop c d) = ps ++ .nugget
        { n with raw := withComment n.raw n.raw.length c d, comment := some d } :: qs := by
  obtain ⟨body, hbody, rfl⟩ := exists_isBody_of_mem_scan (h ▸ List.mem_append_cons_self)
  obtain ⟨a, rfl, hofBody⟩ := ofBody_of_comment_eq hc
  have hsource : t = sourceOf ps ++ (openMark ++ (a ++ (commentMark ++ c)) ++ closeMark
      ++ sourceOf qs) := by
    rw [← sourceOf_scan t, h, sourceOf_append, sourceOf_cons, Piece.source, raw_ofBody]
  have hlength : stop
      = (sourceOf ps ++ (openMark ++ (a ++ commentMark))).length + c.length + 3 := by
    rw [hstop, length_raw_ofBody]
    simp only [List.length_append, length_openMark]
    omega
  have hraw : withComment (ofBody (a ++ (commentMark ++ c))).raw
      (ofBody (a ++ (commentMark ++ c))).raw.length c d
        = openMark ++ (a ++ (commentMark ++ d)) ++ closeMark := by
    have hwithComment := withComment_append (openMark ++ (a ++ commentMark)) c d []
    have hlen : (openMark ++ (a ++ commentMark)).length + c.length + 3
        = (ofBody (a ++ (commentMark ++ c))).raw.length := by
      rw [length_raw_ofBody]
      simp only [List.length_append, length_openMark]
      omega
    rw [hlen, List.append_nil] at hwithComment
    rw [raw_ofBody] at hwithComment ⊢
    simpa only [List.append_assoc] using hwithComment
  rw [hsource, append_raw_eq, hlength]
  refine ⟨extract_comment _ _ _, ?_⟩
  rw [withComment_append, ← append_raw_eq, scan_exchange h (isBody_comment hbody hclear),
    hofBody d hd, hraw]

theorem length_withComment {t c d : Text} {stop : Nat} (hc : c.length + 3 ≤ stop)
    (hstop : stop ≤ t.length) :
    (withComment t stop c d).length + c.length = t.length + d.length := by
  rw [withComment]
  simp only [List.length_append, List.length_take, List.length_drop]
  omega

/-- The comment is shorter than its nugget. -/
theorem length_comment_le {t : Text} {n : Nugget} {c : Text} (h : .nugget n ∈ scan t)
    (hc : n.comment = some c) : c.length + 3 ≤ n.raw.length := by
  obtain ⟨body, -, rfl⟩ := exists_isBody_of_mem_scan h
  obtain ⟨a, rfl, -⟩ := ofBody_of_comment_eq hc
  rw [length_raw_ofBody]
  simp only [List.length_append]
  omega

/-- **The nuggets of a text with another comment**: those behind the comment have moved, and the one
with the comment has the new one. -/
theorem nuggets_withComment {t c d : Text} {ls ms : List Located} {l : Located}
    (hl : nuggets t = ls ++ l :: ms) (hc : l.nugget.comment = some c) (hd : d ≠ [])
    (hclear : Clear closeMark d) :
    nuggets (withComment t l.stop c d)
      = ls ++ ⟨{ l.nugget with
            raw := withComment l.nugget.raw l.nugget.raw.length c d, comment := some d },
          l.start⟩ ::
        ms.map fun m => { m with start := m.start - c.length + d.length } := by
  obtain ⟨ps, qs, hscan, hls, hstart, hms⟩ := exists_of_locate_eq_append_cons hl
  rw [Nat.zero_add] at hstart
  have hstop : l.stop = (sourceOf ps).length + l.nugget.raw.length := by rw [Located.stop, hstart]
  have hshort := length_comment_le (hscan ▸ List.mem_append_cons_self) hc
  have hlength := length_withComment (d := d) hshort (Nat.le_refl _)
  rw [nuggets, (scan_withComment hscan hstop hc hd hclear).2, locate_append, Nat.zero_add, locate,
    ← hstart, ← hls]
  dsimp only
  congr 2
  -- Both stretches of places are the same places, moved by the comments.
  have hold : l.stop = c.length + (l.stop - c.length) := by omega
  have hnew : l.start + (withComment l.nugget.raw l.nugget.raw.length c d).length
      = d.length + (l.stop - c.length) := by omega
  rw [hnew, hms, hold, locate_add, locate_add, ← hold, List.map_map]
  refine List.map_congr_left fun m _ => ?_
  rw [Function.comp_apply, Located.shift, Located.shift, Nat.add_sub_cancel_left, Nat.add_comm]

end Nugget
end Localize
