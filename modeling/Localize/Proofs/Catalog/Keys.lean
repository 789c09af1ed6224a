import Localize.Proofs.Catalog.Written
import Localize.Proofs.Nugget.Key
import Localize.Proofs.Resolution.Rendering

/-!
# Keys of nuggets as keys of catalogs

The key of a nugget was taken from its text, and a table takes the key of an identifier again.  So a
catalog with the key of a nugget for an identifier translates that nugget if taking the key twice is
taking it once.  It is not where a line end of two code points stands behind another carriage
return: such a nugget is not found under its own key, and no catalog translates it.

* `tableOf_of_sole` — the table of a catalog with one wording.
* `outcome_of_sole_entry` — what becomes of a nugget whose key is the identifier of that wording.
-/

set_option autoImplicit false

namespace Localize

namespace Policy

variable {p : Policy}

/-- Of a table with one pair, a key gets the value of the pair if it is the key of the pair. -/
theorem wording?_of_singleton {key value : Text} (h : p.table = some ⟨[(key, value)]⟩)
    (hvalue : value ≠ []) (other : Text) :
    p.wording? other = if other = key then some value else none := by
  rw [wording?, h, Option.bind_some, Table.get?, List.lookup_cons, List.lookup_nil]
  by_cases hkey : other = key
  · rw [if_pos hkey, hkey, beq_self_eq_true]
    simp [hvalue]
  · rw [if_neg hkey, beq_false_of_ne hkey]
    rfl

/-- What becomes of a nugget does not hang on the asset it stands in. -/
theorem outcome_of_resolve (p : Policy) (n : Nugget) (asset : Text) :
    Prod.fst <$> p.resolve n asset = p.outcome n := by
  rw [resolve]
  cases p.outcome n <;> rfl

end Policy

namespace Catalog

open Nugget (doubledReturn)

variable {locale : Text} {bytes : Bytes} {fileNamed : Text → Option Bytes} {e : Po.Entry}

/-- The bytes are a catalog with a single entry, headers apart: a wording without a context that is
neither a plural, nor obsolete, nor fuzzy. -/
structure Sole (locale : Text) (fileNamed : Text → Option Bytes) (bytes : Bytes) (e : Po.Entry) :
    Prop where
  entries : ∃ content entries, Utf8.decodeMarked bytes = .ok content ∧
    Text.strip content ≠ [] ∧ entriesOf locale content fileNamed = .ok entries ∧
    entries.filter (·.id ≠ []) = [e]
  context : e.context = []
  plural : e.plural = []
  current : e.obsolete = false
  settled : fuzzy ∉ e.flags

/-- A table looks at no header. -/
theorem filter_usable (includeFuzzy : Bool) (entries : List Po.Entry) :
    entries.filter (usable includeFuzzy)
      = (entries.filter (·.id ≠ [])).filter (usable includeFuzzy) := by
  rw [List.filter_filter]
  refine List.filter_congr fun e _ => ?_
  cases husable : usable includeFuzzy e with
  | false => rfl
  | true =>
    have hid : e.id ≠ [] := fun hnil => by simp [usable, hnil] at husable
    simp [hid]

/-- **The table of a catalog with one wording** holds it under the key of its identifier. -/
theorem tableOf_of_sole (h : Sole locale fileNamed bytes e) (hid : e.id ≠ [])
    (hvalue : e.string ≠ []) (includeFuzzy : Bool) :
    ∃ r, ingest locale includeFuzzy bytes fileNamed = .ok r ∧
      r.table = ⟨[(Nugget.keyOf e.id, e.string)]⟩ := by
  obtain ⟨content, entries, hdecode, hblank, hentries, hsole⟩ := h.entries
  have hform : valueOf e = e.string := if_pos h.plural
  have husable : usable includeFuzzy e = true := by
    simp [usable, hid, h.current, h.context, h.settled, hform, hvalue]
  refine ⟨⟨tableOf includeFuzzy entries, skipped includeFuzzy entries⟩, ?_, ?_⟩
  · rw [ingest, hdecode]
    dsimp only
    rw [if_neg hblank, hentries]
    rfl
  · show tableOf includeFuzzy entries = _
    rw [tableOf, filter_usable, hsole, List.filter_cons_of_pos husable, List.filter_nil,
      List.foldl_cons, List.foldl_nil, hform]
    rfl

/-- **What becomes of a nugget whose key is the identifier of a catalog's only wording.**  The
catalog is read, and with its table the nugget is translated, unless a line end of two code points
stands in its text behind another carriage return.  Then the table has no wording under the key of
the nugget.  Behind it stands the law of keys: taking the key of a key changes nothing, but for such
texts. -/
theorem outcome_of_sole_entry (text : Text) :
    (∀ l ∈ Nugget.nuggets text, ∀ (locale : Text) (fileNamed : Text → Option Bytes)
      (bytes : Bytes) (e : Po.Entry),
        Sole locale fileNamed bytes e → e.id = l.nugget.key → e.string ≠ [] →
      ∀ includeFuzzy, ∃ r, ingest locale includeFuzzy bytes fileNamed = .ok r ∧
        ∀ (p : Policy) (asset : Text), p.table = some r.table →
          (¬ doubledReturn <:+: l.nugget.text → Prod.fst <$> p.resolve l.nugget asset
            = Outcome.translated <$>
              Placeholder.format (Escape.forSplice e.string) l.nugget.args) ∧
          (doubledReturn <:+: l.nugget.text →
            Prod.fst <$> p.resolve l.nugget asset = p.fallback l.nugget)) ∧
    (Nugget.keyOf (Nugget.keyOf text) = Nugget.keyOf text ↔ ¬ doubledReturn <:+: text) := by
  refine ⟨?_, Nugget.keyOf_keyOf_eq_iff⟩
  intro l hl locale fileNamed bytes e h hid hvalue includeFuzzy
  obtain ⟨hkey, hne⟩ := Nugget.key_of_mem_nuggets hl
  obtain ⟨r, hr, htable⟩ := tableOf_of_sole h (hid ▸ hne) hvalue includeFuzzy
  refine ⟨r, hr, fun p asset hp => ?_⟩
  rw [htable, hid] at hp
  rw [Policy.outcome_of_resolve, Policy.outcome, Policy.wording?_of_singleton hp hvalue, hkey]
  refine ⟨fun hsingle => ?_, fun hdoubled => ?_⟩
  · rw [if_pos (Nugget.keyOf_keyOf_eq_iff.2 hsingle).symm]
  · rw [if_neg fun heq => Nugget.keyOf_keyOf_eq_iff.1 heq.symm hdoubled]

/-! ### Nuggets across two lines -/

/-- The catalog by which a text, as it is spelled in a catalog, is `A`. -/
def wordingOf (spelled : String) : Bytes :=
  Utf8.encodeLossy (Text.ofString ("msgid \"" ++ spelled ++ "\"\nmsgstr \"A\"\n"))

/-- The entry of this catalog. -/
def entryOf (id : List Char) : Po.Entry := { id := Text.ofChars id, string := Text.ofChars ['A'] }

theorem outcome_of_sole_entry_across_lines :
    ∃ r, ingest (Text.ofChars ['f', 'r']) false (wordingOf "a\\nb") (fun _ => none) = .ok r ∧
      ∀ (p : Policy) (asset : Text), p.table = some r.table →
        Prod.fst <$> p.resolve (Nugget.ofBody (Text.ofChars ['a', '\r', '\n', 'b'])) asset
          = .ok (.translated (Text.ofChars ['A'])) := by
  let l : Nugget.Located := ⟨Nugget.ofBody (Text.ofChars ['a', '\r', '\n', 'b']), 0⟩
  have hl : l ∈ Nugget.nuggets l.nugget.raw := by decide +kernel
  have hsole : Sole (Text.ofChars ['f', 'r']) (fun _ => none) (wordingOf "a\\nb")
      (entryOf ['a', '\n', 'b']) :=
    ⟨⟨Text.ofString "msgid \"a\\nb\"\nmsgstr \"A\"\n", _, by decide +kernel, by decide +kernel,
      rfl, by decide +kernel⟩, rfl, rfl, rfl, by decide⟩
  obtain ⟨r, hr, hout⟩ := (outcome_of_sole_entry _).1 l hl _ _ _ _ hsole (by decide +kernel)
    (by decide) false
  refine ⟨r, hr, fun p asset hp => ?_⟩
  rw [(hout p asset hp).1 (by decide +kernel)]
  decide +kernel

/-- **The key of a nugget need not be a key of a catalog.**  A nugget with two carriage returns
before a line feed is not translated by a catalog with its key. -/
theorem not_forall_sole_entry_translates :
    ¬ ∀ (text : Text), ∀ l ∈ Nugget.nuggets text, ∀ (locale : Text)
        (fileNamed : Text → Option Bytes) (bytes : Bytes) (e : Po.Entry),
          Sole locale fileNamed bytes e → e.id = l.nugget.key → e.string ≠ [] →
        ∀ (includeFuzzy : Bool) (r : Ingested),
          ingest locale includeFuzzy bytes fileNamed = .ok r →
        ∀ (p : Policy) (asset : Text), p.table = some r.table →
        ∀ o, Prod.fst <$> p.resolve l.nugget asset = .ok o → o.isTranslated = true := by
  intro htranslates
  let l : Nugget.Located := ⟨Nugget.ofBody (Text.ofChars ['a', '\r', '\r', '\n', 'b']), 0⟩
  have hl : l ∈ Nugget.nuggets l.nugget.raw := by decide +kernel
  have hsole : Sole (Text.ofChars ['f', 'r']) (fun _ => none) (wordingOf "a\\r\\nb")
      (entryOf ['a', '\r', '\n', 'b']) :=
    ⟨⟨Text.ofString "msgid \"a\\r\\nb\"\nmsgstr \"A\"\n", _, by decide +kernel,
      by decide +kernel, rfl, by decide +kernel⟩, rfl, rfl, rfl, by decide⟩
  obtain ⟨r, hr, htable⟩ := tableOf_of_sole hsole (by decide) (by decide) false
  have hout := htranslates _ l hl _ _ _ _ hsole (by decide +kernel) (by decide) false r hr
    { table := some r.table } [] rfl (.kept l.nugget.raw)
  rw [Policy.outcome_of_resolve, Policy.outcome, htable,
    Policy.wording?_of_singleton rfl (by decide)] at hout
  exact absurd (hout (by decide +kernel)) (by decide)

end Catalog
end Localize
