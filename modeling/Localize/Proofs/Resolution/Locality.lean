import Localize.Proofs.Nugget.Settled
import Localize.Proofs.Resolution.Splicing

/-!
# A text can be cut behind a nugget

To find the nuggets of a text one has to read ahead: an opening mark waits for a closing mark, and a
key for its separator.  A nugget that is found ends all waiting.  What stands before its end is read
in the same way if the text stops there, and what stands behind it is read in the same way if the
text begins there, so a text can be localized in two halves, with the cut right behind any of its
nuggets.  A cut elsewhere can take a nugget apart, or make one: `[[[[[[a]]]` holds the nugget
`[[[[[[a]]]`, and behind its first three brackets stands the nugget `[[[a]]]`.

* `scan_take_append_scan_drop` — the pieces of a text are those of its halves.
* `localize_take_append_localize_drop` — a nugget alone, the nuggets of the halves, and what becomes
  of the halves.
-/

set_option autoImplicit false

namespace Localize
namespace Nugget

/-! ## A nugget alone -/

/-- The text of a nugget that is found holds that nugget and nothing else. -/
theorem scan_raw {t : Text} {n : Nugget} (h : .nugget n ∈ scan t) : scan n.raw = [.nugget n] := by
  obtain ⟨body, hbody, rfl⟩ := exists_isBody_of_mem_scan h
  rw [raw_ofBody, ← List.append_nil (openMark ++ body ++ closeMark), scan_nugget_append hbody]
  rfl

theorem nuggets_raw {t : Text} {n : Nugget} (h : .nugget n ∈ scan t) :
    nuggets n.raw = [⟨n, 0⟩] := by
  rw [nuggets, scan_raw h]
  rfl

/-! ## The halves -/

/-- **The pieces of a text are those of its halves**, when it is cut behind a nugget. -/
theorem scan_take_append_scan_drop {t : Text} {l : Located} (h : l ∈ nuggets t) :
    scan t = scan (t.take l.stop) ++ scan (t.drop l.stop) := by
  obtain ⟨ls, ms, hls⟩ := List.append_of_mem h
  obtain ⟨ps, qs, hscan, -, hstart, -⟩ := exists_of_locate_eq_append_cons hls
  have ht : t = sourceOf ps ++ l.nugget.raw ++ sourceOf qs := by
    rw [List.append_assoc]
    exact eq_of_scan_eq hscan
  have hstop : l.stop = (sourceOf ps ++ l.nugget.raw).length := by
    rw [Located.stop, hstart, Nat.zero_add, List.length_append]
  have hmem : Piece.nugget l.nugget ∈ scan t := hscan ▸ List.mem_append_cons_self
  have htake : t.take l.stop = sourceOf ps ++ l.nugget.raw := by
    rw [hstop, ht, List.take_left]
  have hdrop : t.drop l.stop = sourceOf qs := by
    rw [hstop, ht, List.drop_left]
  rw [htake, hdrop, scan_append_of_scan_eq hscan, scan_raw hmem, scan_behind hscan, hscan,
    List.append_assoc]
  rfl

/-- The nuggets of a text are those of its halves. -/
theorem nuggets_take_append_nuggets_drop {t : Text} {l : Located} (h : l ∈ nuggets t) :
    nuggets t
      = nuggets (t.take l.stop) ++ (nuggets (t.drop l.stop)).map (Located.shift l.stop) := by
  have hlength : (t.take l.stop).length = l.stop := by
    obtain ⟨a, body, rest, rfl, -, rfl⟩ := exists_eq_append_of_mem_nuggets h
    rw [List.length_take, Located.stop, raw_ofBody]
    simp only [List.length_append]
    omega
  rw [nuggets, scan_take_append_scan_drop h, locate_append, sourceOf_scan, hlength, Nat.zero_add,
    locate_scan l.stop]
  rfl

end Nugget

namespace Policy

open Nugget

/-! ## Localizing -/

/-- **A text is localized half by half**, when it is cut behind one of its nuggets.  That nugget
alone is found again, and takes up all of its text.  The nuggets of the text are those of the first
half and, moved, those of the second.  A run over the text is a run over the first half and a run
over the second: texts and warnings of the two follow each other, and the counts are added up.  A
placeholder that is refused stops it in the half in which it stands. -/
theorem localize_take_append_localize_drop {t : Text} {l : Located} (h : l ∈ nuggets t) :
    nuggets l.nugget.raw = [⟨l.nugget, 0⟩] ∧
      nuggets t
        = nuggets (t.take l.stop) ++ (nuggets (t.drop l.stop)).map (Located.shift l.stop) ∧
      ∀ (p : Policy) (asset : Text), p.localize t asset = do
        let r ← p.localize (t.take l.stop) asset
        let s ← p.localize (t.drop l.stop) asset
        return ⟨r.text ++ s.text, r.nuggets + s.nuggets, r.translated + s.translated,
          r.warnings ++ s.warnings⟩ := by
  refine ⟨nuggets_raw (mem_scan_iff.2 ⟨l, h, rfl⟩), nuggets_take_append_nuggets_drop h,
    fun p asset => ?_⟩
  rw [localize, scan_take_append_scan_drop h, localizePieces_append]
  rfl

/-- Two nuggets with a bracket too many between them and, at the end, a mark that nothing closes.
The table has a wording for the first; the second is kept and warned about. -/
theorem localize_take_append_localize_drop_between_brackets :
    ∃ l ∈ nuggets (Text.ofChars ['[', '[', '[', 'a', ']', ']', ']', ']', '[', '[', '[', 'b', ']',
        ']', ']', '[', '[', '[']),
      l.stop = 7 ∧
      Policy.localize { table := some ⟨[(Text.ofChars ['a'], Text.ofChars ['A'])]⟩ }
          (Text.ofChars ['[', '[', '[', 'a', ']', ']', ']', ']', '[', '[', '[', 'b', ']', ']', ']',
            '[', '[', '[']) (Text.ofChars ['x'])
        = .ok ⟨Text.ofChars ['A', ']', '[', '[', '[', 'b', ']', ']', ']', '[', '[', '['], 2, 1,
            [⟨Text.ofChars ['x'], Text.ofChars ['b'], []⟩]⟩ := by
  have hmem : ⟨ofBody (Text.ofChars ['a']), 0⟩ ∈ nuggets (Text.ofChars ['[', '[', '[', 'a', ']', ']',
      ']', ']', '[', '[', '[', 'b', ']', ']', ']', '[', '[', '[']) := List.mem_cons_self
  obtain ⟨-, -, hhalves⟩ := localize_take_append_localize_drop hmem
  exact ⟨_, hmem, rfl, hhalves _ _⟩

end Policy
end Localize
