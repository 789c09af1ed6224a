import Localize.Build.Run
import Localize.Proofs.Build.Asset

/-!
# Properties that go through a build

A build is a computation on a `Run`.  Much of what is shown of whole phases of a build (how far they
reach, that they only log, that people are told nothing) is shown of the steps, and then goes
through the phases in the same way.  That way is shown here, once, for every property that is
`Sequential`: steps one after the other have it if each of them has it.

A property that says what a computation does to a run, by a relation of the run before and the run
after, is sequential if the relation is reflexive and transitive (`sequential_of_trans`).
-/

set_option autoImplicit false

namespace Localize.Build

variable {α β : Type}

/-! ## Running computations -/

theorem bind_apply (m : Build α) (f : α → Build β) (r : Run) :
    (m >>= f) r = match m r with
      | (.ok a, r') => f a r'
      | (.error e, r') => (.error e, r') := by
  show (match m r with | (x, r') => ExceptT.bindCont f x r') = _
  rcases m r with ⟨_ | _, _⟩ <;> rfl

/-- What succeeds has gone through steps that did. -/
theorem of_bind_eq_ok {m : Build α} {f : α → Build β} {r r' : Run} {b : β}
    (h : (m >>= f) r = (.ok b, r')) : ∃ a r₁, m r = (.ok a, r₁) ∧ f a r₁ = (.ok b, r') := by
  rw [bind_apply] at h
  rcases hm : m r with ⟨e | a, r₁⟩
  all_goals rw [hm] at h
  · cases (Prod.mk.inj h).1
  · exact ⟨a, r₁, rfl, h⟩

/-- A computation of which the outcome is known. -/
theorem eq_of_outcome {x : Except BuildError α × Run} {out : Except BuildError α} (h : x.1 = out) :
    x = (out, x.2) :=
  Prod.ext h rfl

theorem get_apply (r : Run) : (get : Build Run) r = (.ok r, r) := rfl

theorem log_apply (x : Record) (r : Run) : log x r = (.ok (), logTo true x r) := rfl

theorem change_apply (wrap : FileError → BuildError) (f : Tree → Except FileError Tree) (r : Run) :
    change wrap f r = match f r.tree with
      | .ok tree => (.ok (), { r with tree })
      | .error e => (.error (.ofFile wrap e), r) := by
  rw [change, bind_apply, get_apply]
  dsimp only
  cases f r.tree <;> rfl

theorem makeDirectories_apply (wrap : FileError → BuildError) (p : Path) (r : Run) :
    makeDirectories wrap p r = match r.tree.makeDirectories p with
      | (.ok (), tree) => (.ok (), { r with tree })
      | (.error e, tree) => (.error (.ofFile wrap e), { r with tree }) := by
  rw [makeDirectories, bind_apply, get_apply]
  dsimp only
  rcases r.tree.makeDirectories p with ⟨_ | _, _⟩ <;> rfl

/-- What changes the tree logs nothing, and leaves the time as it is. -/
theorem trace_change (wrap : FileError → BuildError) (f : Tree → Except FileError Tree) (r : Run) :
    (change wrap f r).2.trace = r.trace ∧ (change wrap f r).2.time = r.time := by
  rw [change_apply]
  cases f r.tree <;> exact ⟨rfl, rfl⟩

theorem trace_makeDirectories (wrap : FileError → BuildError) (p : Path) (r : Run) :
    (makeDirectories wrap p r).2.trace = r.trace ∧ (makeDirectories wrap p r).2.time = r.time := by
  rw [makeDirectories_apply]
  rcases r.tree.makeDirectories p with ⟨e | _, t⟩ <;> exact ⟨rfl, rfl⟩

/-! ## Records

The records of a build are events of a few kinds, and their fields are given with them. -/

/-- The records of a build. -/
inductive OfBuild : Record → Prop
  | defaultPass (locale : Text) : OfBuild (BuildEvent.defaultPass locale)
  | catalogLoaded (path : Text) (entries : Nat) : OfBuild (BuildEvent.catalogLoaded path entries)
  | lookupWritten (path : Text) : OfBuild (BuildEvent.lookupWritten path)
  | assetRewritten (a : AssetResult) : OfBuild (BuildEvent.assetRewritten a)
  | missing (m : MissingKey) : OfBuild (BuildEvent.missing m)
  | complete (b : BuildResult) : OfBuild (BuildEvent.complete b)
  | catalogParsed (locale : Text) (entries skipped : Nat) :
      OfBuild (BuildEvent.catalogParsed locale entries skipped)
  | tableLoaded (locale path : Text) (entries : Nat) :
      OfBuild (BuildEvent.tableLoaded locale path entries)
  | tableWritten (locale path : Text) : OfBuild (BuildEvent.tableWritten locale path)
  | ofAsset {x : Record} (h : BuildEvent.OfAsset x) : OfBuild x
  | started (locale : Text) (assets : Nat) (inPlace : Bool) :
      OfBuild (BuildEvent.started locale assets inPlace)
  | finished (b : BuildResult) : OfBuild (BuildEvent.finished b)

theorem debug_ne_human : Level.debug ≠ Level.human := by decide

theorem info_ne_human : Level.info ≠ Level.human := by decide

/-! ## Sequential properties -/

/-- A property of computations that those have which change nothing, and that steps one after the
other have if each of them has it. -/
structure Sequential (P : ∀ {α : Type}, Build α → Prop) : Prop where
  pure : ∀ {α : Type} (a : α), P (pure a : Build α)
  throw : ∀ {α : Type} (e : BuildError), P (throw e : Build α)
  get : P (get : Build Run)
  bind : ∀ {α β : Type} {m : Build α} {f : α → Build β}, P m → (∀ a, P (f a)) → P (m >>= f)

/-- **What each step does to a run, the steps one after the other do**, if doing nothing is doing
it, and doing it twice is.  Each step may rely on what holds of the run that it begins with. -/
theorem sequential_of_trans {I : Run → Prop} {R : Run → Run → Prop} (hrefl : ∀ r, I r → R r r)
    (htrans : ∀ {r r' r''}, R r r' → R r' r'' → R r r'') (hkept : ∀ {r r'}, I r → R r r' → I r') :
    Sequential fun m => ∀ r, I r → R r (m r).2 where
  pure _ := hrefl
  throw _ := hrefl
  get := hrefl
  bind := by
    intro _ _ m f hm hf r hr
    have hfirst := hm r hr
    rw [bind_apply]
    rcases hout : m r with ⟨e | a, r'⟩
    all_goals rw [hout] at hfirst
    · exact hfirst
    · exact htrans hfirst (hf a r' (hkept hr hfirst))

namespace Sequential

variable {P : ∀ {α : Type}, Build α → Prop} (hP : Sequential P)

include hP

/-! ### Records and files -/

theorem logAll {xs : List Record} (hlog : ∀ x ∈ xs, P (log x)) : P (logAll xs) := by
  induction xs with
  | nil => exact hP.pure ()
  | cons x xs ih =>
    exact hP.bind (hlog x List.mem_cons_self) fun _ =>
      ih fun y hy => hlog y (List.mem_cons_of_mem x hy)

theorem writeText {wrap : FileError → BuildError} {path : Path}
    (hfile : ∀ bytes, P (change wrap (·.writeFile path bytes))) (t : Text) :
    P (writeText wrap path t) := by
  refine hP.bind (hfile []) fun _ => ?_
  split
  · exact hP.throw _
  · exact hfile _

/-! ### The table -/

theorem loadTable (hlog : ∀ x, OfBuild x → x.level ≠ Level.human → P (log x)) (locale : Text)
    (path : Path) (includeFuzzy : Bool) : P (loadTable locale path includeFuzzy) := by
  refine hP.bind hP.get fun r => ?_
  dsimp only
  split
  · exact hP.throw _
  · split
    · exact hP.throw _
    · refine hP.bind (hlog _ (.catalogParsed _ _ _) debug_ne_human) fun _ => ?_
      exact hP.bind (hlog _ (.tableLoaded _ _ _) info_ne_human) fun _ => hP.pure _

theorem writeTable {locale : Text} {directory : Path}
    (hlog : ∀ x, OfBuild x → x.level ≠ Level.human → P (log x))
    (hdirectory : ∀ wrap, P (makeDirectories wrap directory))
    (hfile : ∀ wrap bytes,
      P (change wrap (·.writeFile (Catalog.lookupTarget locale directory) bytes)))
    (table : Table) : P (writeTable locale table directory) := by
  refine hP.bind (hdirectory _) fun _ => ?_
  refine hP.bind (hP.writeText (hfile _) _) fun _ => ?_
  exact hP.bind (hlog _ (.tableWritten _ _) info_ne_human) fun _ => hP.pure _

theorem loadPolicy {s : Settings} (hlog : ∀ x, OfBuild x → P (log x))
    (htable : ∀ path directory table, s.catalog.path = some path →
      s.catalog.lookupDir = some directory → P (Build.writeTable s.locale table directory)) :
    P (loadPolicy s) := by
  rw [Build.loadPolicy]
  cases hcatalog : s.catalog.path with
  | none => exact hP.bind (hlog _ (.defaultPass _)) fun _ => hP.pure _
  | some path =>
    refine hP.bind (hP.loadTable (fun x hx _ => hlog x hx) _ _ _) fun table => ?_
    refine hP.bind (hlog _ (.catalogLoaded _ _)) fun _ => ?_
    cases hdir : s.catalog.lookupDir with
    | none => exact hP.pure _
    | some directory =>
      refine hP.bind (htable path directory table hcatalog hdir) fun _ => ?_
      exact hP.bind (hlog _ (.lookupWritten _)) fun _ => hP.pure _

/-! ### Working on assets

The work on an asset logs, with what is known of the run or without. -/

theorem attempt {known : Bool}
    (hlog : ∀ x, BuildEvent.OfAsset x → P (modify (logTo known x) : Build Unit)) (s : Settings)
    (p : Policy) (name : Text) : P (attempt s p known name) := by
  have hall : ∀ xs : List Record, (∀ x ∈ xs, BuildEvent.OfAsset x) →
      P (modify fun r => xs.foldl (fun r x => logTo known x r) r : Build Unit) := by
    intro xs
    induction xs with
    | nil => exact fun _ => hP.pure ()
    | cons x xs ih =>
      intro hxs
      exact hP.bind (hlog x (hxs x List.mem_cons_self)) fun _ =>
        ih fun y hy => hxs y (List.mem_cons_of_mem x hy)
  refine hP.bind hP.get fun r => ?_
  exact hP.bind (hall _ (ofAsset_of_processAsset s p r.tree name)) fun _ => hP.pure _

/-- Work that is not shared knows of the run. -/
theorem processInOrder
    (hlog : ∀ x, BuildEvent.OfAsset x → P (modify (logTo true x) : Build Unit)) (s : Settings)
    (p : Policy) (names : List Text) : P (processInOrder s p names) := by
  induction names with
  | nil => exact hP.pure []
  | cons name names ih =>
    refine hP.bind (hP.attempt hlog s p name) fun outcome => ?_
    cases outcome with
    | error e => exact hP.throw e
    | ok first => exact hP.bind ih fun _ => hP.pure _

theorem attemptAll
    (hlog : ∀ x, BuildEvent.OfAsset x → P (modify (logTo false x) : Build Unit)) (s : Settings)
    (p : Policy) (names : List Text) (order : List Nat) : P (attemptAll s p names order) := by
  induction order with
  | nil => exact hP.pure []
  | cons i order ih =>
    exact hP.bind (hP.attempt hlog s p _) fun _ => hP.bind ih fun _ => hP.pure _

/-- Work that is shared does not know of the run. -/
theorem processScheduled
    (hlog : ∀ x, BuildEvent.OfAsset x → P (modify (logTo false x) : Build Unit)) (s : Settings)
    (p : Policy) (schedule : Schedule) (names : List Text) :
    P (processScheduled s p schedule names) := by
  refine hP.bind (hP.attemptAll hlog s p names _) fun outcomes => ?_
  split
  · exact hP.throw _
  · exact hP.pure _

/-- **The work on the assets** has what each of its records has, whoever works on them. -/
theorem processAll
    (hlog : ∀ known x, BuildEvent.OfAsset x → P (modify (logTo known x) : Build Unit))
    (s : Settings) (p : Policy) (schedule : Schedule) (names : List Text) :
    P (processAll s p schedule names) := by
  rw [Build.processAll]
  split
  · exact hP.processInOrder (hlog true) s p names
  · exact hP.processScheduled (hlog false) s p schedule names

/-- **Writing assets** has what writing each of them has. -/
theorem writeAll {s : Settings} {assets : List Processed}
    (hwrite : ∀ asset ∈ assets, P (write s asset)) : P (writeAll s assets) := by
  induction assets with
  | nil => exact hP.pure ()
  | cons asset rest ih =>
    exact hP.bind (hwrite asset List.mem_cons_self) fun _ =>
      ih fun a ha => hwrite a (List.mem_cons_of_mem asset ha)

end Sequential
end Localize.Build
