import Localize.Proofs.Build.Course
import Localize.Proofs.Build.Outcomes
import Localize.Proofs.Nugget.Greedy
import Localize.Proofs.Resolution.Accounting

/-!
# The accounts of a build

What a build counts is counted in four places: nugget by nugget in a text, once for each asset, once
for the build, and once for its report.  Here the sums are followed from the first place to the
last.

* `accounted_of_processAsset` — what is counted in an asset are the nuggets of its text, if it is
  one that nuggets are looked for in (`foundIn`).
* `accounted_of_run` — the result of a build has one such account for each name that it found.
* `BuildResult.Balanced` — found are the translated and the missing, in every asset and in all.
* `status_ofResult_iff` — a report says `success` if nothing is missing.
-/

set_option autoImplicit false

namespace Localize

open Nugget (Located nuggets)

/-! ## One asset -/

/-- The nuggets that are found in an asset. -/
def foundIn (s : Settings) (t : Tree) (name : Text) : List Located :=
  match scanned? s t name with
  | some text => nuggets text
  | none => []

/-- The result of an asset counts what is found in it, and says whether its text changed. -/
structure AssetResult.Accounted (s : Settings) (p : Policy) (t : Tree) (a : AssetResult) :
    Prop where
  /-- They stand in the order of the text. -/
  ordered : (foundIn s t a.name).Pairwise fun l m => l.stop ≤ m.start
  nuggets : a.nuggets = (foundIn s t a.name).length
  translated : a.translated = (foundIn s t a.name).countP fun l => p.translates l.nugget
  warnings : a.warnings = p.warningsOf a.name (foundIn s t a.name)
  /-- Those that count as translated come out so. -/
  outcomes : ∀ l ∈ foundIn s t a.name, ∃ o, p.outcome l.nugget = .ok o ∧
    o.isTranslated = p.translates l.nugget
  rewritten : a.status = .rewritten ↔ ∃ text result, scanned? s t a.name = some text ∧
    p.localize text a.name = .ok result ∧ result.text ≠ text

/-- Every nugget that was found is translated or missing. -/
def AssetResult.Balanced (a : AssetResult) : Prop := a.nuggets = a.translated + a.warnings.length

section Assets

variable {s : Settings} {p : Policy} {t : Tree} {name text : Text} {a : Processed}

/-- Nuggets are found in the order of the text. -/
theorem pairwise_foundIn (s : Settings) (t : Tree) (name : Text) :
    (foundIn s t name).Pairwise fun l m => l.stop ≤ m.start := by
  rw [foundIn]
  split
  · exact Nugget.pairwise_locate 0 _
  · exact List.Pairwise.nil

/-- An asset in which nothing is looked for counts nothing. -/
theorem accounted_of_unscanned {status : AssetStatus} (h : scanned? s t name = none)
    (hstatus : status ≠ .rewritten) :
    AssetResult.Accounted s p t { name, status } := by
  have hfound : foundIn s t name = [] := by rw [foundIn, h]
  constructor
  · exact pairwise_foundIn s t name
  · simp [hfound]
  · simp [hfound]
  · simp [hfound, Policy.warningsOf]
  · simp [hfound]
  · simp [h, hstatus]

/-- The result of an asset that is looked into counts the nuggets of its text. -/
theorem accounted_of_scanned (h : scanned? s t name = some text)
    (hout : processText p name text = .ok a) : a.result.Accounted s p t := by
  obtain ⟨r, hlocalize, rfl⟩ := of_processText_eq_ok hout
  have hfound : foundIn s t name = nuggets text := by rw [foundIn, h]
  obtain ⟨hnuggets, htranslated, hwarnings, houtcomes⟩ := Policy.tally_of_localize hlocalize
  constructor
  · exact pairwise_foundIn s t name
  · dsimp only
    rw [hfound, hnuggets]
  · dsimp only
    rw [hfound, htranslated]
  · dsimp only
    rw [hfound, hwarnings]
  · dsimp only
    rw [hfound]
    exact houtcomes
  · dsimp only
    rw [h]
    by_cases hsame : r.text = text <;> simp [hsame, hlocalize]

/-- **What comes of an asset counts what is found in it.** -/
theorem accounted_of_processAsset (h : (processAsset s p t name).2 = .ok a) :
    a.result.Accounted s p t := by
  rcases processAsset_cases s p t name with
    ⟨text, hscan, hout⟩ | ⟨hscan, ⟨status, hstatus, hout⟩ | ⟨e, hout⟩⟩
  all_goals rw [h] at hout
  · exact accounted_of_scanned hscan hout.symm
  · cases hout
    exact accounted_of_unscanned hscan hstatus
  · cases hout

/-- If missing wordings are warned about, the result of an asset is balanced. -/
theorem AssetResult.Accounted.balanced {a : AssetResult} (h : a.Accounted s p t) (hp : p.Warns) :
    a.Balanced := by
  rw [Balanced, h.nuggets, h.translated, h.warnings, Policy.length_eq_translated_add_warnings hp
    a.name]
  exact Int.natCast_add _ _

/-- If they are not, or if there is no table, nothing is missing in it. -/
theorem AssetResult.Accounted.warnings_eq_nil {a : AssetResult} (h : a.Accounted s p t)
    (hp : p.table = none ∨ p.warnOnMissing = false) : a.warnings = [] :=
  h.warnings.trans (Policy.warningsOf_of_silent hp _ _)

end Assets

/-! ## All assets -/

namespace BuildResult

/-- The result of a build has an account of every asset, in the order of their names.  The tree that
an asset was read in is the one that the build began with, but for the log. -/
structure Accounted (s : Settings) (p : Policy) (names : List Text) (r : Run) (b : BuildResult) :
    Prop where
  names : b.assets.map (·.name) = names
  assets : ∀ a ∈ b.assets, ∃ t, Build.Met r t ∧ a.Accounted s p t

/-- Found are the translated and the missing, in every asset and in all. -/
structure Balanced (b : BuildResult) : Prop where
  assets : ∀ a ∈ b.assets, a.Balanced
  nuggets : b.nuggets = b.translated + b.warnings.length

/-- **If the counts of each asset go together, so do those of the build.** -/
theorem balanced_of_assets {b : BuildResult} (h : ∀ a ∈ b.assets, a.Balanced) : b.Balanced := by
  refine ⟨h, ?_⟩
  rw [nuggets, translated, warnings]
  generalize b.assets = assets at h
  induction assets with
  | nil => rfl
  | cons a assets ih =>
    have hfirst : a.nuggets = a.translated + a.warnings.length := h a List.mem_cons_self
    have hrest := ih fun a ha => h a (List.mem_cons_of_mem _ ha)
    simp only [List.map_cons, List.foldr_cons, List.flatMap_cons, List.length_append]
    rw [hfirst, hrest, Int.natCast_add]
    omega

section Accounted

variable {s : Settings} {p : Policy} {names : List Text} {r : Run} {b : BuildResult}

theorem Accounted.balanced (h : b.Accounted s p names r) (hp : p.Warns) : b.Balanced :=
  balanced_of_assets fun a ha =>
    let ⟨_, _, haccounted⟩ := h.assets a ha
    haccounted.balanced hp

theorem Accounted.warnings_eq_nil (h : b.Accounted s p names r)
    (hp : p.table = none ∨ p.warnOnMissing = false) : b.warnings = [] :=
  List.flatMap_eq_nil_iff.2 fun a ha =>
    let ⟨_, _, haccounted⟩ := h.assets a ha
    haccounted.warnings_eq_nil hp

end Accounted

end BuildResult

namespace Build

variable {s : Settings} {p : Policy} {schedule : Schedule} {duration : Binary64} {r r' r₁ : Run}
variable {names : List Text}

/-- What was worked on is accounted for, however the work was shared. -/
theorem accounted_of_processAll {assets : List Processed}
    (h : processAll s p schedule names (begun s names r₁) = (.ok assets, r')) :
    (resultOf s duration assets).Accounted s p names r₁ := by
  have hbegun : r₁.Change Tree.nowhere (fun q => r₁.sinks.file = some q) (begun s names r₁) :=
    change_logTo (fun _ => id) true _ rfl
  obtain ⟨hnames, houtcomes⟩ := of_processAll_eq_ok h
  refine ⟨?_, fun result hresult => ?_⟩
  · rw [← hnames, resultOf, List.map_map]
    rfl
  · obtain ⟨a, ha, rfl⟩ := List.mem_map.1 hresult
    obtain ⟨t, hmet, houtcome⟩ := houtcomes a ha
    exact ⟨t, hmet.of_change hbegun, accounted_of_processAsset houtcome⟩

/-- **What a build gives is accounted for**: there is one asset for each name that was found, and
each counts what is found in it. -/
theorem accounted_of_run {b : BuildResult} (h : run s schedule duration r = (.ok b, r')) :
    ∃ p names r₁, Prepared s r p names r₁ ∧ b.Accounted s p names r₁ := by
  obtain ⟨p, names, assets, r₁, r₂, r₃, hready, hprocess, -, rfl, -⟩ := exists_of_run_eq_ok h
  exact ⟨p, names, r₁, hready, accounted_of_processAll hprocess⟩

end Build

/-! ## The report -/

namespace Report

variable {b : BuildResult}

/-- The row of an asset that was rewritten. -/
def rewrittenRow (a : AssetResult) : ReportRow :=
  [("asset", .text a.name), ("nuggets", .int a.nuggets), ("translated", .int a.translated)]

/-- The row of a wording that is missing. -/
def missingRow (w : MissingKey) : ReportRow :=
  [("asset", .text w.asset), ("key", .text w.key), ("locale", .text w.locale)]

/-- A report tells of a build what was counted in it, asset by asset. -/
structure Tells (b : BuildResult) (report : Report) : Prop where
  assets : report.assets = b.assets.length
  nuggets : report.nuggets = b.nuggets
  translated : report.translated = b.translated
  /-- The assets whose text changed, with their counts. -/
  rewritten : report.rewritten
    = (b.assets.filter fun a => a.status = .rewritten).map rewrittenRow
  /-- The warnings, asset by asset. -/
  missing : report.missing = b.assets.flatMap fun a => a.warnings.map missingRow

theorem tells_ofResult (b : BuildResult) : (ofResult b).Tells b where
  assets := rfl
  nuggets := rfl
  translated := rfl
  rewritten := rfl
  missing := List.map_flatMap

/-- **A report says `success` exactly if every nugget that was found was translated.** -/
theorem status_ofResult_iff (h : b.Balanced) :
    (ofResult b).status = "success" ↔ (ofResult b).translated = (ofResult b).nuggets := by
  show (if b.warnings = [] then "success" else "warnings" : Text) = "success"
    ↔ b.translated = b.nuggets
  have hcount := h.nuggets
  by_cases hnone : b.warnings = []
  · rw [if_pos hnone]
    rw [hnone, List.length_nil] at hcount
    exact iff_of_true rfl (by omega)
  · rw [if_neg hnone]
    have hpos : 0 < b.warnings.length := List.length_pos_iff.2 hnone
    exact iff_of_false (by decide) (by omega)

end Report
end Localize
