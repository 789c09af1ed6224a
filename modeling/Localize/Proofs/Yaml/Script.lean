import Localize.Proofs.Charset.Portions
import Localize.Yaml.Script

/-!
# What there is to be read of a file

A file is read by portions, and each is looked at when it comes.  For a file with nothing wrong in
it this makes no difference: there is its text to be read, with ends of lines unified, and nothing
behind it.  For any other something is behind what there is to be read (`ofFile_eq_iff`).
-/

set_option autoImplicit false

namespace Localize
namespace Yaml

open Charset (unifyLineEnds)

variable {t u : Text} {texts : List Text} {rest : Script} {fault : Option Charset.Fault}

/-- Ends of lines may stand in a stream in every form. -/
theorem all_isAllowed_unifyLineEnds (t : Text) :
    (unifyLineEnds t).all isAllowed = t.all isAllowed := by
  fun_induction unifyLineEnds t with
  | case1 => rfl
  | case2 rest ih =>
    rw [List.all_cons, List.all_cons, List.all_cons, ih]
    rfl
  | case3 c rest hc ih =>
    rw [List.all_cons, List.all_cons, ih]
    split
    · rename_i hreturn
      rw [hreturn]
      rfl
    · rfl

namespace Script

/-- What there is with a portion in front, if nothing is wrong with it. -/
theorem add_eq_iff :
    add t rest = ⟨u, none⟩ ↔ t.all isAllowed = true ∧ ∃ v, rest = ⟨v, none⟩ ∧ u = t ++ v := by
  obtain ⟨text, behind⟩ := rest
  rw [add]
  split
  · rename_i h
    simp only [mk.injEq, h, true_and]
    constructor
    · rintro ⟨rfl, rfl⟩
      exact ⟨text, ⟨rfl, rfl⟩, rfl⟩
    · rintro ⟨v, ⟨rfl, rfl⟩, rfl⟩
      exact ⟨rfl, rfl⟩
  · rename_i h
    exact iff_of_false nofun fun hall => h hall.1

theorem foldr_add_eq_iff {behind : Option Fault} :
    texts.foldr add ⟨[], behind⟩ = ⟨u, none⟩ ↔
      texts.flatten.all isAllowed = true ∧ behind = none ∧ u = texts.flatten := by
  induction texts generalizing u with
  | nil =>
    rw [List.foldr_nil, mk.injEq, List.flatten_nil]
    exact ⟨fun ⟨htext, hbehind⟩ => ⟨rfl, hbehind, htext.symm⟩,
      fun ⟨_, hbehind, htext⟩ => ⟨htext.symm, hbehind⟩⟩
  | cons t texts ih =>
    rw [List.foldr_cons, add_eq_iff, List.flatten_cons, List.all_append, Bool.and_eq_true]
    constructor
    · rintro ⟨ht, v, hrest, rfl⟩
      obtain ⟨htexts, hbehind, rfl⟩ := ih.1 hrest
      exact ⟨⟨ht, htexts⟩, hbehind, rfl⟩
    · rintro ⟨⟨ht, htexts⟩, hbehind, rfl⟩
      exact ⟨ht, _, ih.2 ⟨htexts, hbehind, rfl⟩, rfl⟩

/-- **What there is of portions**, if nothing is wrong with them and behind them. -/
theorem ofPortions_eq_iff :
    ofPortions texts fault = ⟨u, none⟩ ↔
      texts.flatten.all isAllowed = true ∧ fault = none ∧ u = texts.flatten := by
  have hfault : fault.map Fault.undecodable = none ↔ fault = none := Option.map_eq_none_iff
  cases texts with
  | nil =>
    rw [ofPortions, ← hfault]
    exact @foldr_add_eq_iff u [] _
  | cons first texts =>
    cases texts with
    | nil =>
      cases fault with
      | none =>
        rw [ofPortions, ← hfault]
        exact @foldr_add_eq_iff u [first] none
      | some fault => exact iff_of_false nofun fun h => by cases h.2.1
    | cons second texts =>
      -- these two are read together, and so they are looked at as one
      have hflatten : ((first ++ second) :: texts).flatten = (first :: second :: texts).flatten :=
        List.append_assoc first second texts.flatten
      rw [ofPortions, ← hfault, ← hflatten]
      exact @foldr_add_eq_iff u ((first ++ second) :: texts) _

/-- **A file is read as a whole**, with nothing wrong behind it, exactly if it is a text that a
stream may hold; what there is to be read is then this text, with its ends of lines unified. -/
theorem ofFile_eq_iff {bytes : Bytes} :
    ofFile bytes = ⟨u, none⟩ ↔
      ∃ t, Utf8.decode bytes = .ok t ∧ t.all isAllowed = true ∧ u = unifyLineEnds t := by
  rw [ofFile]
  have hcount : 0 < portionSize := by decide
  rcases Charset.portions_utf8_cases hcount bytes with
    ⟨texts, t, hportions, ht, hflatten⟩ | ⟨⟨texts, fault, hportions⟩, hnone⟩
  · rw [hportions]
    dsimp only
    rw [ofPortions_eq_iff, hflatten, all_isAllowed_unifyLineEnds]
    constructor
    · rintro ⟨hall, -, rfl⟩
      exact ⟨t, ht, hall, rfl⟩
    · rintro ⟨t', ht', hall, rfl⟩
      obtain rfl : t = t' := Except.ok.inj (ht.symm.trans ht')
      exact ⟨hall, rfl, rfl⟩
  · rw [hportions]
    dsimp only
    rw [ofPortions_eq_iff]
    exact iff_of_false (fun h => by cases h.2.1) fun ⟨t, ht, _⟩ => hnone t ht

end Script
end Yaml
end Localize
