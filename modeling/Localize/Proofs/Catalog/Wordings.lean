import Localize.Catalog.Ingest
import Localize.Proofs.Files.Tree
import Localize.Proofs.Lookup
import Localize.Proofs.Nugget.Key
import Localize.Proofs.Resolution.Rendering

/-!
# Which wording a nugget gets

A table is made from a catalog entry by entry, and an entry whose key is there already takes the
place of the earlier one.  So a key has the wording of the last entry that can be used and has this
key (`get?_tableOf`), in the order of the catalog, whatever other entries stand between.  What comes
of a nugget is read off this (`outcome_of_parsed`): it is translated if the catalog has such an
entry, and not otherwise.

Whether fuzzy entries are wanted can change which entry is the last one, and so the wording, but
wanting them loses no key.
-/

set_option autoImplicit false

namespace Localize

namespace Table

variable {key value other : Text} {pairs : List (Text × Text)}

/-- What a key finds after a pair is set. -/
theorem lookup_put (key value other : Text) (pairs : List (Text × Text)) :
    (put key value pairs).lookup other
      = if other = key then some value else pairs.lookup other :=
  lookup_of_put (put key value) rfl (fun _ _ _ => rfl) pairs other

/-- A pair in a list after one is set is that one, or was there. -/
theorem mem_put {pair : Text × Text} (h : pair ∈ put key value pairs) :
    pair = (key, value) ∨ pair ∈ pairs := by
  induction pairs with
  | nil => exact Or.inl (List.mem_singleton.1 h)
  | cons old pairs ih =>
    obtain ⟨k, v⟩ := old
    rw [put] at h
    split at h
    · rename_i hk
      subst hk
      exact (List.mem_cons.1 h).imp_right (List.mem_cons_of_mem _)
    · rcases List.mem_cons.1 h with h | h
      · exact Or.inr (h ▸ List.mem_cons_self)
      · exact (ih h).imp_right (List.mem_cons_of_mem _)

theorem get?_insert (t : Table) (key value other : Text) :
    (t.insert key value).get? other = if other = key then some value else t.get? other :=
  lookup_put key value other t.entries

end Table

namespace Catalog

open Nugget (keyOf)

variable {includeFuzzy : Bool} {entries : List Po.Entry} {key : Text} {e : Po.Entry}

/-! ## The table of a list of entries -/

/-- An entry that a table can use, clause by clause. -/
structure Usable (includeFuzzy : Bool) (e : Po.Entry) : Prop where
  id : e.id ≠ []
  current : e.obsolete = false
  context : e.context = []
  /-- A fuzzy entry has to be wanted. -/
  settled : fuzzy ∈ e.flags → includeFuzzy = true
  value : valueOf e ≠ []

theorem usable_eq_true_iff : usable includeFuzzy e = true ↔ Usable includeFuzzy e := by
  simp only [usable, Bool.and_eq_true, Bool.or_eq_true, Bool.not_eq_true', decide_eq_true_eq]
  constructor
  · rintro ⟨⟨⟨⟨hid, hcurrent⟩, hcontext⟩, hfuzzy⟩, hvalue⟩
    exact ⟨hid, hcurrent, hcontext, fun hflag => hfuzzy.resolve_right fun hno => hno hflag, hvalue⟩
  · intro h
    refine ⟨⟨⟨⟨h.id, h.current⟩, h.context⟩, ?_⟩, h.value⟩
    by_cases hflag : fuzzy ∈ e.flags
    · exact Or.inl (h.settled hflag)
    · exact Or.inr hflag

/-- What is usable without fuzzy entries is usable with them. -/
theorem Usable.of_settled (h : Usable false e) (includeFuzzy : Bool) : Usable includeFuzzy e :=
  ⟨h.id, h.current, h.context, fun hfuzzy => absurd (h.settled hfuzzy) Bool.false_ne_true, h.value⟩

/-- The last usable entry with a key. -/
def lastWith? (includeFuzzy : Bool) (entries : List Po.Entry) (key : Text) : Option Po.Entry :=
  entries.reverse.find? fun e => usable includeFuzzy e && keyOf e.id = key

/-- Entries that are inserted one after the other hide those before them. -/
theorem get?_foldl_insert (entries : List Po.Entry) (table : Table) (key : Text) :
    (entries.foldl (fun table e => table.insert (keyOf e.id) (valueOf e)) table).get? key
      = ((entries.reverse.find? fun e => keyOf e.id = key).map valueOf).or (table.get? key) := by
  induction entries generalizing table with
  | nil => rfl
  | cons e entries ih =>
    rw [List.foldl_cons, ih, Table.get?_insert, List.reverse_cons, List.find?_append]
    cases entries.reverse.find? fun e => keyOf e.id = key with
    | some later => rfl
    | none =>
      by_cases hkey : keyOf e.id = key
      · simp [hkey]
      · simp [hkey, Ne.symm hkey]

/-- **A key has the wording of the last usable entry with this key.** -/
theorem get?_tableOf (includeFuzzy : Bool) (entries : List Po.Entry) (key : Text) :
    (tableOf includeFuzzy entries).get? key
      = (lastWith? includeFuzzy entries key).map valueOf := by
  have hboth : (fun e => decide (usable includeFuzzy e = true ∧ decide (keyOf e.id = key) = true))
      = fun e => usable includeFuzzy e && keyOf e.id = key := by
    funext e
    simp
  rw [tableOf, get?_foldl_insert, ← List.filter_reverse, List.find?_filter, hboth, lastWith?]
  exact Option.or_none

/-- The last usable entry with a key, by where it stands. -/
theorem lastWith?_eq_some_iff :
    lastWith? includeFuzzy entries key = some e ↔
      ∃ before after, entries = before ++ e :: after ∧ Usable includeFuzzy e ∧ keyOf e.id = key ∧
        ∀ e' ∈ after, Usable includeFuzzy e' → keyOf e'.id ≠ key := by
  rw [lastWith?, List.find?_eq_some_iff_append]
  constructor
  · rintro ⟨hlast, after, before, heq, hafter⟩
    obtain ⟨husable, hkey⟩ := (Bool.and_eq_true_iff.1 hlast).imp_right of_decide_eq_true
    refine ⟨before.reverse, after.reverse, ?_, usable_eq_true_iff.1 husable, hkey, ?_⟩
    · simpa using congrArg List.reverse heq
    · intro e' he' husable' hkey'
      simpa [usable_eq_true_iff.2 husable', hkey'] using hafter e' (List.mem_reverse.1 he')
  · rintro ⟨before, after, rfl, husable, hkey, hafter⟩
    refine ⟨by simp [usable_eq_true_iff.2 husable, hkey], after.reverse, before.reverse, by simp,
      fun e' he' => ?_⟩
    cases husable' : usable includeFuzzy e' with
    | false => rfl
    | true => simpa using hafter e' (List.mem_reverse.1 he') (usable_eq_true_iff.1 husable')

/-- There is one if there is any. -/
theorem isSome_lastWith?_iff :
    (lastWith? includeFuzzy entries key).isSome ↔
      ∃ e ∈ entries, Usable includeFuzzy e ∧ keyOf e.id = key := by
  rw [lastWith?, List.find?_isSome]
  simp [usable_eq_true_iff]

/-- A pair that is there after insertions was there before them, or is that of an entry. -/
theorem mem_foldl_insert {pair : Text × Text} {table : Table}
    (h : pair ∈ (entries.foldl
      (fun table e => table.insert (keyOf e.id) (valueOf e)) table).entries) :
    pair ∈ table.entries ∨ ∃ e ∈ entries, pair = (keyOf e.id, valueOf e) := by
  induction entries generalizing table with
  | nil => exact Or.inl h
  | cons e entries ih =>
    rcases ih h with htable | ⟨later, hlater, hpair⟩
    · rcases Table.mem_put htable with hpair | hold
      · exact Or.inr ⟨e, List.mem_cons_self, hpair⟩
      · exact Or.inl hold
    · exact Or.inr ⟨later, List.mem_cons_of_mem e hlater, hpair⟩

/-- Every pair of a table is that of an entry. -/
theorem exists_of_mem_tableOf {pair : Text × Text}
    (h : pair ∈ (tableOf includeFuzzy entries).entries) :
    ∃ e ∈ entries, Usable includeFuzzy e ∧ pair = (keyOf e.id, valueOf e) := by
  obtain hempty | ⟨e, he, rfl⟩ := mem_foldl_insert h
  · cases hempty
  · obtain ⟨hmem, husable⟩ := List.mem_filter.1 he
    exact ⟨e, hmem, usable_eq_true_iff.1 husable, rfl⟩

/-- A table has neither an empty key nor an empty value. -/
theorem ne_nil_of_mem_tableOf {pair : Text × Text}
    (h : pair ∈ (tableOf includeFuzzy entries).entries) : pair.1 ≠ [] ∧ pair.2 ≠ [] := by
  obtain ⟨e, -, husable, rfl⟩ := exists_of_mem_tableOf h
  exact ⟨Nugget.keyOf_ne_nil husable.id, husable.value⟩

/-- Wanting fuzzy entries loses no key. -/
theorem exists_mem_tableOf_true {pair : Text × Text}
    (h : pair ∈ (tableOf false entries).entries) :
    ∃ value, (pair.1, value) ∈ (tableOf true entries).entries := by
  obtain ⟨e, he, husable, rfl⟩ := exists_of_mem_tableOf h
  have hlast : (lastWith? true entries (keyOf e.id)).isSome :=
    isSome_lastWith?_iff.2 ⟨e, he, husable.of_settled true, rfl⟩
  obtain ⟨last, hlast⟩ := Option.isSome_iff_exists.1 hlast
  have hget : (tableOf true entries).get? (keyOf e.id) = some (valueOf last) := by
    rw [get?_tableOf, hlast, Option.map_some]
  exact ⟨valueOf last, mem_of_lookup hget⟩

/-! ## Resolving with the table -/

section Resolving

variable {p : Policy}

/-- The values of a table are not empty, so a policy passes over none of them. -/
theorem wording?_tableOf (h : p.table = some (tableOf includeFuzzy entries)) (key : Text) :
    p.wording? key = (lastWith? includeFuzzy entries key).map valueOf := by
  rw [Policy.wording?, h, Option.bind_some, get?_tableOf]
  cases hlast : lastWith? includeFuzzy entries key with
  | none => rfl
  | some e =>
    obtain ⟨-, -, -, husable, -⟩ := lastWith?_eq_some_iff.1 hlast
    simp [husable.value]

/-- The last usable entry with the key of a nugget gives the nugget its wording. -/
theorem resolve_of_lastWith? {n : Nugget} (h : p.table = some (tableOf includeFuzzy entries))
    (hlast : lastWith? includeFuzzy entries n.key = some e) (asset : Text) :
    p.resolve n asset = (fun t => (.translated t, none)) <$>
      Placeholder.format (Escape.forSplice (valueOf e)) n.args := by
  have hwording : p.wording? n.key = some (valueOf e) := by
    rw [wording?_tableOf h, hlast, Option.map_some]
  have hwarning : p.warning? n.key asset = none := if_neg fun hmissing => by
    simp [hwording] at hmissing
  have hout : p.outcome n
      = Outcome.translated <$> Placeholder.format (Escape.forSplice (valueOf e)) n.args := by
    rw [Policy.outcome, hwording]
  rw [Policy.resolve, hout, hwarning]
  cases Placeholder.format (Escape.forSplice (valueOf e)) n.args <;> rfl

/-- A nugget that is resolved is translated if its key has a wording. -/
theorem isTranslated_of_resolve {n : Nugget} {asset : Text} {o : Outcome} {w : Option MissingKey}
    (h : p.resolve n asset = .ok (o, w)) : o.isTranslated = true ↔ (p.wording? n.key).isSome := by
  obtain ⟨hout, -⟩ := Policy.resolve_eq_ok_iff.1 h
  obtain ⟨value, s, hwording, -, rfl⟩ | ⟨s, hwording, -, -, rfl⟩ | ⟨hwording, -, rfl⟩ :=
    Policy.outcome_eq_ok_cases hout
  all_goals simp [hwording, Outcome.isTranslated]

end Resolving

/-! ## Catalogs that are read -/

/-- The bytes are a catalog with these entries: they are text and not blank, and the text, or the
file it names, is read to its end. -/
def Parsed (locale : Text) (fileNamed : Text → Option Bytes) (bytes : Bytes)
    (entries : List Po.Entry) : Prop :=
  ∃ content, Utf8.decodeMarked bytes = .ok content ∧ Text.strip content ≠ [] ∧
    entriesOf locale content fileNamed = .ok entries

variable {locale : Text} {fileNamed : Text → Option Bytes} {bytes : Bytes}

theorem ingest_of_parsed (h : Parsed locale fileNamed bytes entries) (includeFuzzy : Bool) :
    ingest locale includeFuzzy bytes fileNamed
      = .ok ⟨tableOf includeFuzzy entries, skipped includeFuzzy entries⟩ := by
  obtain ⟨content, hdecode, hblank, hentries⟩ := h
  rw [ingest, hdecode]
  dsimp only
  rw [if_neg hblank, hentries]
  rfl

/-- **What a catalog translates.**  A catalog that can be read gives a table, with or without its
fuzzy entries.  A nugget that is resolved with it is translated exactly if the catalog has a usable
entry with the key of the nugget, and the wording is that of the last one: no other entry, whether
it stands before or behind, and no rule of the policy has a say in it.  The table has neither an
empty key nor an empty value, and no key is lost if fuzzy entries are wanted. -/
theorem outcome_of_parsed (h : Parsed locale fileNamed bytes entries) :
    ∃ r : Bool → Ingested,
      (∀ includeFuzzy,
        ingest locale includeFuzzy bytes fileNamed = .ok (r includeFuzzy) ∧
        (∀ (p : Policy) (n : Nugget) (asset : Text), p.table = some (r includeFuzzy).table →
          (∀ before e after, entries = before ++ e :: after →
            Usable includeFuzzy e → keyOf e.id = n.key →
            (∀ e' ∈ after, Usable includeFuzzy e' → keyOf e'.id ≠ n.key) →
            p.resolve n asset = (fun t => (.translated t, none)) <$>
              Placeholder.format (Escape.forSplice (valueOf e)) n.args) ∧
          ∀ o w, p.resolve n asset = .ok (o, w) →
            (o.isTranslated = true ↔
              ∃ e ∈ entries, Usable includeFuzzy e ∧ keyOf e.id = n.key)) ∧
        ∀ pair ∈ (r includeFuzzy).table.entries, pair.1 ≠ [] ∧ pair.2 ≠ []) ∧
      ∀ pair ∈ (r false).table.entries, ∃ value, (pair.1, value) ∈ (r true).table.entries := by
  refine ⟨fun includeFuzzy => ⟨tableOf includeFuzzy entries, skipped includeFuzzy entries⟩,
    fun includeFuzzy => ⟨ingest_of_parsed h includeFuzzy, ?_, fun _ => ne_nil_of_mem_tableOf⟩,
    fun _ => exists_mem_tableOf_true⟩
  intro p n asset hp
  constructor
  · intro before e after hentries husable hkey hafter
    have hlast : lastWith? includeFuzzy entries n.key = some e :=
      lastWith?_eq_some_iff.2 ⟨before, after, hentries, husable, hkey, hafter⟩
    exact resolve_of_lastWith? hp hlast asset
  · intro o w hresolve
    rw [isTranslated_of_resolve hresolve, wording?_tableOf hp, Option.isSome_map]
    exact isSome_lastWith?_iff

/-! ### Three entries of one key -/

/-- The identifier is written with the other line end. -/
def withReturn : Po.Entry :=
  { id := Text.ofChars ['a', '\r', '\n', 'b'], string := Text.ofChars ['1'] }

/-- A plural entry. -/
def withForms : Po.Entry :=
  { id := Text.ofChars ['a', '\n', 'b'], plural := Text.ofChars ['c'],
    forms := [(1, []), (0, Text.ofChars ['2'])] }

/-- An entry that has to be looked at again. -/
def unsettled : Po.Entry :=
  { id := Text.ofChars ['a', '\n', 'b'], string := Text.ofChars ['3'], flags := [fuzzy] }

/-- The catalog of these three, one after the other. -/
def threeOfOneKey : Text :=
  Text.ofString ("msgid \"a\\r\\nb\"\nmsgstr \"1\"\n\n"
    ++ "msgid \"a\\nb\"\nmsgid_plural \"c\"\nmsgstr[0] \"2\"\nmsgstr[1] \"\"\n\n"
    ++ "#, fuzzy\nmsgid \"a\\nb\"\nmsgstr \"3\"\n")

theorem outcome_of_parsed_threeOfOneKey :
    Parsed (Text.ofChars ['f', 'r']) (fun _ => none) (Utf8.encodeLossy threeOfOneKey)
      [withReturn, withForms, unsettled] ∧
    ∃ r : Bool → Ingested, ∀ includeFuzzy,
      ingest (Text.ofChars ['f', 'r']) includeFuzzy (Utf8.encodeLossy threeOfOneKey)
        (fun _ => none) = .ok (r includeFuzzy) ∧
      ∀ (p : Policy) (asset : Text), p.table = some (r includeFuzzy).table →
        p.resolve (Nugget.ofBody (Text.ofChars ['a', '\n', 'b'])) asset
          = .ok (.translated (Text.ofChars [if includeFuzzy then '3' else '2']), none) := by
  have hparsed : Parsed (Text.ofChars ['f', 'r']) (fun _ => none) (Utf8.encodeLossy threeOfOneKey)
      [withReturn, withForms, unsettled] :=
    ⟨threeOfOneKey, by decide +kernel, by decide +kernel, by decide +kernel⟩
  refine ⟨hparsed, ?_⟩
  obtain ⟨r, hr, -⟩ := outcome_of_parsed hparsed
  refine ⟨r, fun includeFuzzy => ⟨(hr includeFuzzy).1, fun p asset hp => ?_⟩⟩
  obtain ⟨hlast, -⟩ := (hr includeFuzzy).2.1 p _ asset hp
  cases includeFuzzy with
  | true =>
    rw [hlast [withReturn, withForms] unsettled [] rfl (usable_eq_true_iff.1 (by decide +kernel))
      (by decide +kernel) (fun e' he' => absurd he' List.not_mem_nil)]
    decide +kernel
  | false =>
    have hunsettled : ∀ e' ∈ [unsettled], Usable false e' →
        keyOf e'.id ≠ (Nugget.ofBody (Text.ofChars ['a', '\n', 'b'])).key := by
      intro e' he' husable
      rw [List.mem_singleton.1 he'] at husable
      exact absurd (usable_eq_true_iff.2 husable) (by decide +kernel)
    rw [hlast [withReturn] withForms [unsettled] rfl (usable_eq_true_iff.1 (by decide +kernel))
      (by decide +kernel) hunsettled]
    decide +kernel

end Catalog
end Localize
