import SchemaTypes.Proofs.Generation.Parts
import SchemaTypes.Proofs.Generation.Units
import SchemaTypes.Proofs.Property.Origin

/-!
# Where the failures and warnings of a run come from

A run realizes requests.  It starts from those of the definitions and the root, and a struct that
is realized calls for the structs that its properties need.  What makes a run fail, and each warning
about a default, goes back to a request that the run has come to.

* `Generation.Realizes`: the requests that a run comes to.
* `Generation.Resolves`: the nodes that it resolves for properties.
* `Generation.Raises`, `Generation.Ignores`: what failures and warnings are raised for.
* `Generation.ends_run`: every failure with a pointer, and every such warning, is one of these.
-/

namespace SchemaTypes

open Outcome

/-! ## Fields -/

namespace ClassRequest

/-- The schema of the struct, with its pointer. -/
def site (request : ClassRequest) : Site := ⟨request.schema, request.pointer⟩

/-- The node of a property, with its pointer. -/
def propertySite (request : ClassRequest) (key : String) (node : Json) : Site :=
  ⟨node, Pointer.descendant request.pointer ["properties", key]⟩

end ClassRequest

theorem FieldProperty.needed_inner_decorate (property : Property) (required : Bool)
    (default : Option Json) (nullableDefaults : Bool) :
    (decorate property required default nullableDefaults).inner.needed = property.needed := by
  rcases inner_decorate property required default nullableDefaults with hinner | hinner
  · exact congrArg Property.needed hinner.symm
  · exact (congrArg Property.needed hinner).symm

/-- A default that is ignored is the one that is declared. -/
theorem FieldProperty.eq_of_ignoredDefault? {property : Property} {required : Bool}
    {default : Option Json} {nullableDefaults : Bool} {ignored : Json}
    (hignored : (decorate property required default nullableDefaults).ignoredDefault? =
      some ignored) : default = some ignored := by
  unfold decorate at hignored
  split at hignored
  · cases hignored
  · dsimp only at hignored
    split at hignored
    · cases hignored
    · rename_i literal hliteral
      split at hignored
      · cases hignored
      · obtain rfl := Option.some.inj hignored
        exact (Option.filter_eq_some_iff.mp hliteral).1

/-- A field is resolved from a property of the struct. -/
structure ResolvedField.IsOf (context : Context) (request : ClassRequest) (field : ResolvedField) :
    Prop where
  entry : (field.key, field.node) ∈ request.schema.properties?.getD []
  yields : (request.propertySite field.key field.node).Yields context field.property.inner
  ignored : ∀ default, field.property.ignoredDefault? = some default →
    field.node.defaultValue? = some default

variable [Spelling]

namespace Generator

variable {generator : Generator}

/-- **Fields.**  Each field is resolved from a property, and a failure is that of a property. -/
theorem ends_resolveFields (request : ClassRequest) :
    Ends (generator.resolveFields request)
      (fun fields => ∀ field ∈ fields, field.IsOf generator.context request)
      (fun error => ∃ entry ∈ request.schema.properties?.getD [],
        (request.propertySite entry.1 entry.2).Fails generator.context error) := by
  have hfields : Ends (generator.resolveFields request)
      (fun fields => ∀ field ∈ fields, ∃ entry ∈ request.schema.properties?.getD [],
        field.IsOf generator.context request)
      (fun error => ∃ entry ∈ request.schema.properties?.getD [],
        (request.propertySite entry.1 entry.2).Fails generator.context error) := by
    refine Ends.mapM fun entry hentry => ?_
    have hnode := @Site.ends_resolveNode generator.context request entry.1 _ ""
      (Pointer.descendant request.pointer ["properties", entry.1]) entry.2
    unfold resolveField
    rw [bind_assoc]
    refine (hnode.mono (fun _ => id) (fun error herror => ⟨entry, hentry, herror⟩)).bind
      fun property _ hproperty => .of_ok ?_
    exact {
      entry := hentry
      yields := fun nested hnested => hproperty nested <| by
        rwa [FieldProperty.needed_inner_decorate] at hnested
      ignored := fun default => FieldProperty.eq_of_ignoredDefault? }
  exact hfields.mono
    (fun fields hall field hfield => (hall field hfield).elim fun _ hentry => hentry.2)
    (fun _ => id)

end Generator

/-! ## What a run comes to -/

namespace Generation

variable (generation : Generation)

/-- A run comes to realize a request, while some levels are left and some progress has been
made. -/
inductive Realizes : Nat → ClassRequest → Progress → Prop
  /-- The run starts from the request, after others. -/
  | start {before request after progress}
      (hrequests : generation.requests = before ++ request :: after)
      (hbefore : before.foldlM (fun progress request =>
          generation.generator.realize (generation.options.maxDepth + 1) request progress) .empty =
        .ok progress) :
      Realizes (generation.options.maxDepth + 1) request progress
  /-- The type of another request needs the struct, after other types. -/
  | nested {levels request progress emission middle before nested after later}
      (hrequest : Realizes (levels + 1) request progress)
      (hprepare : generation.generator.prepare request = .ok emission)
      (hcollect : generation.generator.collect request.pointer progress emission = .ok middle)
      (hneeded : emission.needed = before ++ .struct nested :: after)
      (hbefore : before.foldlM (generation.generator.realizeNeeded
          (generation.generator.realize levels) request.pointer) middle = .ok later) :
      Realizes levels nested later

/-- A run comes to resolve a node, for a property of a struct that it realizes. -/
inductive Resolves (site : Site) : Prop
  | intro {levels request progress merged key node}
      (hrequest : generation.Realizes (levels + 1) request progress)
      (hmerged : generation.generator.mergedSchema request = .ok merged)
      (hentry : (key, node) ∈ merged.properties?.getD [])
      (hreaches : (request.propertySite key node).Reaches site)

/-- A failure is raised for a node. -/
inductive Raises : Site → GenerationError → Prop
  /-- The struct is nested too deeply. -/
  | depth {request progress} (hrequest : generation.Realizes 0 request progress) :
      Raises request.site
        (.resolution request.pointer (.depthExceeded generation.options.maxDepth))
  /-- The requested schema is no enumeration. -/
  | enumeration {levels request progress fault}
      (hrequest : generation.Realizes (levels + 1) request progress)
      (hfault : EnumDefinition.ofSchema request.schema generation.options.enumsSupported =
        .error fault) :
      Raises request.site (.enumeration request.pointer fault)
  /-- The requested schema cannot be merged. -/
  | merging {levels request progress error}
      (hrequest : generation.Realizes (levels + 1) request progress)
      (herror : generation.generator.mergedSchema request = .error error) :
      Raises request.site error
  /-- The requested schema is no object. -/
  | shape {levels request progress merged}
      (hrequest : generation.Realizes (levels + 1) request progress)
      (hmerged : generation.generator.mergedSchema request = .ok merged)
      (hshape : merged.isObjectShaped = false) :
      Raises request.site (.resolution request.pointer .notObjectShaped)
  /-- A property cannot be resolved. -/
  | property {site error} (hresolves : generation.Resolves site)
      (hrefuses : site.Refuses generation.generator.context error) : Raises site error

/-- The default of a property is ignored. -/
inductive Ignores : Site → Json → Prop
  | intro {levels request progress prepared fields field default}
      (hrequest : generation.Realizes (levels + 1) request progress)
      (hprepare : generation.generator.prepare request = .ok (.struct prepared fields))
      (hfield : field ∈ fields) (hignored : field.property.ignoredDefault? = some default) :
      Ignores (request.propertySite field.key field.node) default

/-- A failure that names no node, or is raised for the node that it names. -/
def Explains (error : GenerationError) : Prop :=
  error.pointer? = none ∨ ∃ site, generation.Raises site error

/-- The warnings about defaults are those of ignored defaults. -/
def Accounts (progress : Progress) : Prop :=
  ∀ pointer default, .defaultIgnored pointer default ∈ progress.warnings →
    ∃ site, generation.Ignores site default ∧ site.pointer = pointer

variable {generation}

theorem Accounts.insert {progress : Progress} (hprogress : generation.Accounts progress)
    (pointer : String) (unit : TypeUnit) : generation.Accounts (progress.insert pointer unit) := by
  intro named default hwarning
  refine hprogress named default ?_
  by_cases htaken : unit.path ∈ progress.units.map (·.1)
  · rw [Progress.insert_of_mem htaken] at hwarning
    exact (List.mem_append.mp hwarning).resolve_right fun hlast =>
      nomatch List.mem_singleton.mp hlast
  · rw [Progress.insert_of_not_mem htaken] at hwarning
    exact hwarning

omit [Spelling] in
theorem warnings_foldl_warn (warnings : List GenerationWarning) (progress : Progress) :
    (warnings.foldl Progress.warn progress).warnings = progress.warnings ++ warnings := by
  induction warnings generalizing progress with
  | nil => exact (List.append_nil _).symm
  | cons warning rest ih =>
      rw [List.foldl_cons, ih, Progress.warn, List.append_assoc, List.singleton_append]

/-- Names that are no identifiers are no failure of a node. -/
theorem ends_checkIdentifiers (code : Code) :
    Ends (Generator.checkIdentifiers code) (fun _ => True) generation.Explains := by
  unfold Generator.checkIdentifiers
  split
  · exact .of_error (.inl rfl)
  · exact .of_ok trivial

theorem ends_realizeUnion (unit : UnionUnit) (pointer : String) {progress : Progress}
    (hprogress : generation.Accounts progress) :
    Ends (generation.generator.realizeUnion unit pointer progress) generation.Accounts
      generation.Explains :=
  (ends_checkIdentifiers _).bind fun _ _ _ => .of_ok (hprogress.insert _ _)

/-- A request fails to be prepared for its own schema or for that of a property. -/
theorem explains_of_prepare {levels : Nat} {request : ClassRequest} {progress : Progress}
    (hrequest : generation.Realizes (levels + 1) request progress) :
    Ends (generation.generator.prepare request) (fun _ => True) generation.Explains := by
  have hmerge : Ends (generation.generator.mergedSchema request)
      (fun merged => generation.generator.mergedSchema request = .ok merged) generation.Explains :=
    ⟨fun _ => id, fun _ herror => .inr ⟨_, .merging hrequest herror⟩⟩
  unfold Generator.prepare
  split
  · split
    · exact .of_error (.inr ⟨_, .enumeration hrequest ‹_›⟩)
    · exact .of_ok trivial
  · refine hmerge.bind fun merged _ hmerged => ?_
    split
    · rename_i hshape
      exact .of_error (.inr ⟨_, .shape hrequest hmerged (by simpa using hshape)⟩)
    · refine Ends.bind ((Generator.ends_resolveFields _).mono (fun _ => id) ?_) fun _ _ _ =>
        .of_ok trivial
      rintro error ⟨entry, hentry, origin, hreaches, hrefuses⟩
      exact .inr ⟨origin, .property (.intro hrequest hmerged hentry hreaches) hrefuses⟩

/-- Adding the type of a request warns about its ignored defaults. -/
theorem ends_collect {levels : Nat} {request : ClassRequest} {progress : Progress}
    {emission : Emission} (hrequest : generation.Realizes (levels + 1) request progress)
    (hprepare : generation.generator.prepare request = .ok emission)
    (hprogress : generation.Accounts progress) :
    Ends (generation.generator.collect request.pointer progress emission) generation.Accounts
      generation.Explains := by
  cases emission with
  | struct prepared fields =>
      obtain ⟨-, merged, -, hprepared, -⟩ := Generator.prepare_struct hprepare
      refine (ends_checkIdentifiers _).bind fun _ _ _ => .of_ok (Accounts.insert ?_ _ _)
      intro pointer default hwarning
      rw [warnings_foldl_warn] at hwarning
      rcases List.mem_append.mp hwarning with hearlier | hown
      · exact hprogress pointer default hearlier
      · obtain ⟨field, hfield, hignored⟩ := List.mem_filterMap.mp hown
        obtain ⟨ignored, hignored, hsame⟩ := Option.map_eq_some_iff.mp hignored
        cases hsame
        exact ⟨_, .intro hrequest hprepare hfield hignored, by rw [hprepared]; rfl⟩
  | enumeration target => exact .of_ok (hprogress.insert _ _)
  | union path docs alternatives => exact ends_realizeUnion _ _ hprogress
  | entry path branches => exact ends_realizeUnion _ _ hprogress

/-- **Realizing a request.**  Failures with a pointer and warnings about defaults go back to the
requests that a run comes to. -/
theorem ends_realize {levels : Nat} {request : ClassRequest} {progress : Progress}
    (hrequest : generation.Realizes levels request progress)
    (hprogress : generation.Accounts progress) :
    Ends (generation.generator.realize levels request progress) generation.Accounts
      generation.Explains := by
  induction levels generalizing request progress with
  | zero => exact .of_error (.inr ⟨_, .depth hrequest⟩)
  | succ levels ih =>
      rw [Generator.realize_succ]
      refine (explains_of_prepare hrequest).bind fun emission hprepare _ =>
        (ends_collect hrequest hprepare hprogress).bind fun middle hcollect hmiddle => ?_
      refine Ends.foldlM hmiddle fun before minted after later hneeded hbefore hlater => ?_
      cases minted with
      | struct nested => exact ih (.nested hrequest hprepare hcollect hneeded hbefore) hlater
      | enumeration target => exact .of_ok (hlater.insert _ _)
      | union path docs alternatives => exact ends_realizeUnion _ _ hlater
      | dynamic entry branches => exact ends_realizeUnion _ _ hlater

theorem ends_realizeAll :
    Ends (generation.realizeAll generation.targets generation.definitions) generation.Accounts
      generation.Explains := by
  rw [realizeAll_eq]
  refine Ends.foldlM nofun fun before request after progress hrequests hbefore hprogress => ?_
  exact ends_realize (.start hrequests hbefore) hprogress

/-- Files that cannot be written are no failure of a node. -/
theorem ends_writeFile (sourcePath : String) (file : FileUnit) :
    Ends (writeFile sourcePath file) (fun _ => True) generation.Explains := by
  refine (ends_checkIdentifiers file.code).bind fun _ _ _ => ?_
  split
  · exact .of_ok trivial
  · exact .of_error (.inl rfl)

/-- **Failures and warnings of a run.**  Every failure that names a node is raised for a node, and
so is every warning about a default. -/
theorem ends_run :
    Ends generation.run
      (fun output => ∀ pointer default, .defaultIgnored pointer default ∈ output.stats.warnings →
        ∃ site, generation.Ignores site default ∧ site.pointer = pointer)
      generation.Explains := by
  refine ends_realizeAll.bind fun progress _ hprogress => ?_
  have hfiles : Ends ((generation.fileUnits progress).mapM (writeFile generation.sourcePath))
      (fun results => ∀ result ∈ results, ∃ file ∈ generation.fileUnits progress, True)
      generation.Explains :=
    Ends.mapM fun file _ => ends_writeFile _ file
  exact hfiles.bind fun _ _ _ => .of_ok hprogress

end Generation

end SchemaTypes
