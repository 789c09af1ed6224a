import Localize.Proofs.Nugget.Comment
import Localize.Proofs.Resolution.Splicing

/-!
# Comments do not matter

The comment of a nugget is for translators.  A run looks at the key, the text and the arguments, and
writes the comment nowhere but where it keeps the whole nugget as it is.  With another comment in
its place, then, everything a run gives is the same, and so is everything a scan finds but the
comment itself.

* `outcome_congr_of_ne_kept` — the outcome of a nugget that is not kept hangs on its key, its text
  and its arguments.
* `localize_withComment` — the two texts side by side.
-/

set_option autoImplicit false

namespace Localize
namespace Policy

open Nugget (Located nuggets scan withComment)

variable {p : Policy} {asset : Text}

/-- **A nugget that is not kept** comes out by its key, its text and its arguments. -/
theorem outcome_congr_of_ne_kept {n m : Nugget} (hkey : m.key = n.key) (htext : m.text = n.text)
    (hargs : m.args = n.args) (h : ∀ s, p.outcome n ≠ .ok (.kept s)) :
    p.outcome m = p.outcome n := by
  cases hwording : p.wording? n.key with
  | some value => rw [outcome, outcome, hkey, hwording, hargs]
  | none =>
    cases hbrackets : p.removeBrackets with
    | false => exact absurd (outcome_of_wording?_eq_none hbrackets hwording) (h n.raw)
    | true =>
      rw [outcome, outcome, fallback, fallback, hkey, hwording, hbrackets, htext, hargs]
      rfl

theorem localizePiece_congr_of_ne_kept {n m : Nugget} (hkey : m.key = n.key)
    (htext : m.text = n.text) (hargs : m.args = n.args)
    (h : ∀ s, p.outcome n ≠ .ok (.kept s)) :
    (Piece.nugget m).localize p asset = (Piece.nugget n).localize p asset := by
  rw [Piece.localize, Piece.localize, resolve, resolve,
    outcome_congr_of_ne_kept hkey htext hargs h, hkey]

/-- A run over a text in which one piece has given way to another that is localized alike. -/
theorem localizePieces_exchange {piece piece' : Piece}
    (h : piece'.localize p asset = piece.localize p asset) (ps qs : List Piece) :
    p.localizePieces asset (ps ++ piece' :: qs) = p.localizePieces asset (ps ++ piece :: qs) := by
  rw [localizePieces_append, localizePieces_append, localizePieces, localizePieces, h]

/-- **Comments never influence the result.**  A nugget is found with a comment, and another one that
can stand there is put in its place.  Then the nuggets before it are found as before, those behind
it are found moved by the difference of the comments, and of the nugget itself only the comment and
the text it is part of have changed.  A run that does not keep the nugget gives the same text, the
same counts and the same warnings. -/
theorem localize_withComment {t c d : Text} {ls ms : List Located} {l : Located}
    (hl : nuggets t = ls ++ l :: ms) (hc : l.nugget.comment = some c) (hd : d ≠ [])
    (hclose : ¬ Nugget.closeMark <:+: d) (hend : d.getLast? ≠ some (CodePoint.ofChar ']')) :
    t.extract (l.stop - 3 - c.length) (l.stop - 3) = c ∧
      nuggets (withComment t l.stop c d)
        = ls ++ ⟨{ l.nugget with
              raw := withComment l.nugget.raw l.nugget.raw.length c d, comment := some d },
            l.start⟩ :: ms.map (fun m => { m with start := m.start - c.length + d.length }) ∧
      ∀ (p : Policy) (asset : Text), (∀ s, p.outcome l.nugget ≠ .ok (.kept s)) →
        p.localize (withComment t l.stop c d) asset = p.localize t asset := by
  have hclear : Text.Clear Nugget.closeMark d :=
    (Text.clear_replicate_iff (n := 3) (by decide)).2 ⟨hclose, hend⟩
  obtain ⟨ps, qs, hscan, -, hstart, -⟩ := Nugget.exists_of_locate_eq_append_cons hl
  have hstop : l.stop = (Nugget.sourceOf ps).length + l.nugget.raw.length := by
    rw [Located.stop, hstart, Nat.zero_add]
  obtain ⟨hextract, hscan'⟩ := Nugget.scan_withComment hscan hstop hc hd hclear
  refine ⟨hextract, Nugget.nuggets_withComment hl hc hd hclear, fun p asset hkept => ?_⟩
  rw [localize, localize, hscan, hscan']
  refine localizePieces_exchange ?_ ps qs
  exact localizePiece_congr_of_ne_kept (n := l.nugget) rfl rfl rfl hkept

/-- A comment with separators gives way to one with an opening mark, between a nugget before it and
one behind it. -/
theorem localize_withComment_among_marks :
    let t := Text.ofChars ['[', '[', '[', 'a', ']', ']', ']', '[', '[', '[', 'k', '|', '|', '|',
      'x', '/', '/', '/', '|', '|', '|', 'c', ']', ']', ']', '[', '[', '[', 'b', ']', ']', ']']
    let p : Policy :=
      { table := some ⟨[(Text.ofChars ['k'], Text.ofChars ['%', '0', '!'])]⟩,
        removeBrackets := true }
    nuggets (withComment t 25 (Text.ofChars ['|', '|', '|', 'c']) (Text.ofChars ['[', '[', '[']))
        = [⟨Nugget.ofBody (Text.ofChars ['a']), 0⟩,
          ⟨Nugget.ofBody (Text.ofChars ['k', '|', '|', '|', 'x', '/', '/', '/', '[', '[', '[']), 7⟩,
          ⟨Nugget.ofBody (Text.ofChars ['b']), 24⟩] ∧
      p.localize (withComment t 25 (Text.ofChars ['|', '|', '|', 'c']) (Text.ofChars ['[', '[', '[']))
          [] = .ok ⟨Text.ofChars ['a', 'x', '!', 'b'], 3, 1,
            [⟨[], Text.ofChars ['a'], []⟩, ⟨[], Text.ofChars ['b'], []⟩]⟩ := by
  intro t p
  have hl : nuggets t = [⟨Nugget.ofBody (Text.ofChars ['a']), 0⟩] ++
      ⟨Nugget.ofBody (Text.ofChars ['k', '|', '|', '|', 'x', '/', '/', '/', '|', '|', '|', 'c']), 7⟩
        :: [⟨Nugget.ofBody (Text.ofChars ['b']), 25⟩] := rfl
  obtain ⟨-, hnuggets, hlocalize⟩ := localize_withComment (d := Text.ofChars ['[', '[', '['])
    hl rfl (by decide) (by decide) (by decide)
  refine ⟨hnuggets, ?_⟩
  refine (hlocalize p [] fun s hs => ?_).trans rfl
  cases hs

end Policy
end Localize
