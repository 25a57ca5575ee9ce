import Provision.Proofs.Workload.State

/-! # Kinds that are named for their types

A workload that declares no kind is of the kind named like its type, without the modules in front of the name
and without the type arguments behind it. The tag of a record keeps apart the types that have different names,
wherever they are defined and whatever their arguments are. Types of one name are of one kind, and read what
the other has stored.
-/

namespace Provision

open Run Node

/-- A name in a type path. -/
structure Identifier where
  text : String
  plain : ∀ c ∈ text.toList, c ≠ ':' ∧ c ≠ '<'

/-- The path of a type: the modules that it is in, its name, and its type arguments as they are written. -/
structure TypePath where
  modules : List Identifier := []
  name : Identifier
  arguments : Option String := none

namespace TypePath

/-- A path as it is written. -/
def text (path : TypePath) : String :=
  String.join (path.modules.map fun module => module.text ++ "::") ++ path.name.text ++
    path.arguments.elim "" fun arguments => "<" ++ arguments ++ ">"

end TypePath

namespace Workload

theorem afterLastSeparator_of_plain {name : List Char} (plain : ∀ c ∈ name, c ≠ ':') :
    afterLastSeparator name = none := by
  induction name with
  | nil => rfl
  | cons c name ih =>
      have other := plain c List.mem_cons_self
      rw [afterLastSeparator, ih fun c member => plain c (List.mem_cons_of_mem _ member)]
      simp [other]

theorem afterLastSeparator_append (front : List Char) {name : List Char} (plain : ∀ c ∈ name, c ≠ ':') :
    afterLastSeparator (front ++ ':' :: ':' :: name) = some name := by
  induction front with
  | nil =>
      have second : afterLastSeparator (':' :: name) = none := by
        rw [afterLastSeparator, afterLastSeparator_of_plain plain]
        refine if_neg fun both => ?_
        exact plain ':' (List.mem_of_mem_head? both.2) rfl
      rw [List.nil_append, afterLastSeparator, second]
      rfl
  | cons c front ih => rw [List.cons_append, afterLastSeparator, ih]

/-- The kind of a type that declares none is its name. -/
theorem kindOfType_text (path : TypePath) : kindOfType path.text = path.name.text := by
  obtain ⟨modules, name, arguments⟩ := path
  have written : (TypePath.text ⟨modules, name, arguments⟩).toList =
      modules.flatMap (fun module => module.text.toList ++ [':', ':']) ++ name.text.toList ++
        (arguments.elim "" fun arguments => "<" ++ arguments ++ ">").toList := by
    simp [TypePath.text, List.flatMap_map]
  have front : ∀ c ∈ modules.flatMap (fun module => module.text.toList ++ [':', ':']) ++ name.text.toList,
      (c != '<') = true := by
    intro c member
    rw [bne_iff_ne]
    rcases List.mem_append.mp member with inFront | inName
    · obtain ⟨module, -, inModule⟩ := List.mem_flatMap.mp inFront
      rcases List.mem_append.mp inModule with inText | separator
      · exact (module.plain c inText).2
      · rintro rfl
        simp at separator
    · exact (name.plain c inName).2
  have behind : (arguments.elim "" fun arguments => "<" ++ arguments ++ ">").toList.takeWhile (· != '<') =
      [] := by
    cases arguments <;> simp
  have plain : ∀ c ∈ name.text.toList, c ≠ ':' := fun c member => (name.plain c member).1
  rw [kindOfType, written, List.takeWhile_append_of_pos front, behind, List.append_nil]
  rcases List.eq_nil_or_concat modules with rfl | ⟨outer, module, rfl⟩
  · simp [afterLastSeparator_of_plain plain]
  · have last : (outer ++ [module]).flatMap (fun module => module.text.toList ++ [':', ':']) ++
        name.text.toList = (outer.flatMap (fun module => module.text.toList ++ [':', ':']) ++
          module.text.toList) ++ ':' :: ':' :: name.text.toList := by simp
    rw [List.concat_eq_append, last, afterLastSeparator_append _ plain]
    simp

/-- The workload of a type that declares no kind. -/
def ofType (path : TypePath) (form : Json.Form) : Workload where
  kind := kindOfType path.text
  form

end Workload

/-- While no call to the store goes wrong, what is read through one type after it was stored through another
    is settled by the names of the two. Where they differ, it is refused, as the state of an object of the one
    name in the place of the other, and never read. Where they are the same, whatever modules the types are in
    and whatever their arguments are, what is stored is decoded as a state of the other type. -/
theorem state_read_by_name (stored asked : TypePath) (form form' : Json.Form) (key : ObjectKey)
    (state : Json.Value) {node : Node} (calm : node.faults.Calm) :
    ∃ after, after.store = node.store.write key ⟨stored.name.text, state.print⟩ ∧
      ∀ (engine : Engine) depth (next : Except EngineError Unit → Except EngineError Json.Value → Program),
        engine.run depth ((Workload.ofType stored form).save key state fun saved =>
          (Workload.ofType asked form').current key (next saved)) node =
        engine.run depth (next (.ok ()) (if stored.name.text = asked.name.text then
            (form'.decodeText state.print).mapError (.decode key asked.name.text ·)
          else .error (.objectInvalidType key asked.name.text stored.name.text))) after := by
  obtain ⟨mid, written, calm', saves⟩ :=
    (Workload.ofType stored form).run_save rfl calm key state
  obtain ⟨after, same, -, reads⟩ := (Workload.ofType asked form').run_current calm' key
  have kind : ∀ (path : TypePath) form, (Workload.ofType path form).kind = path.name.text :=
    fun path _ => Workload.kindOfType_text path
  rw [kind] at written
  have record : mid.store.record? key = some ⟨stored.name.text, state.print⟩ := by
    rw [written, MemoryStore.write, MemoryStore.record?]
    simp
  refine ⟨after, same.trans written, fun engine depth next => ?_⟩
  rw [saves, reads, Workload.reading, record]
  dsimp only
  rw [kind]
  by_cases one : stored.name.text = asked.name.text
  · rw [if_pos one, if_pos one, one]
    rfl
  · rw [if_neg one, if_neg one]

namespace Small

/-- A disk in one module, and one in another. -/
def localDisk : TypePath := ⟨[⟨"storage", by simp⟩, ⟨"near", by simp⟩], ⟨"Disk", by simp⟩, none⟩

def remoteDisk : TypePath := ⟨[⟨"storage", by simp⟩, ⟨"far", by simp⟩], ⟨"Disk", by simp⟩, none⟩

/-- One type with different arguments. -/
def numbers : TypePath := ⟨[], ⟨"Pool", by simp⟩, some "u64"⟩

def pools : TypePath := ⟨[], ⟨"Pool", by simp⟩, some "storage::near::Pool<storage::far::Disk>"⟩

/-- Stores a state through one type and reads it through another. -/
def through (stored asked : TypePath) : Program :=
  (Workload.ofType stored (.plain .bool)).save (object "a") (.bool true) fun _ =>
    (Workload.ofType asked (.plain .bool)).current (object "a") fun
      | .ok state => .done (.ok (.ofValue state))
      | .error error => .failing error

end Small

/-- Types of different modules, and types that differ in their arguments, read what the other has stored. -/
theorem different_types_read :
    (Small.localDisk.text ≠ Small.remoteDisk.text ∧
      (Small.engine.run 9 (Small.through Small.localDisk Small.remoteDisk) .empty).1 =
        .ok (.ofValue (.bool true))) ∧
    Small.numbers.text ≠ Small.pools.text ∧
      (Small.engine.run 9 (Small.through Small.numbers Small.pools) .empty).1 =
        .ok (.ofValue (.bool true)) := by
  decide +kernel

/-- The general statement for a disk that is taken for a pool: it is refused. -/
theorem state_read_by_name_pool : Node.empty.faults.Calm ∧ ∃ after,
    Small.engine.run 9 (Small.through Small.localDisk Small.pools) .empty =
      (.error (.error (.engine (.objectInvalidType (Small.object "a") "Pool" "Disk"))), after) := by
  have calm : Node.empty.faults.Calm := FaultPlan.calm_none
  obtain ⟨after, -, reads⟩ := state_read_by_name Small.localDisk Small.pools (.plain .bool) (.plain .bool)
    (Small.object "a") (.bool true) calm
  refine ⟨calm, after, ?_⟩
  rw [Small.through, reads, if_neg (by decide)]
  rfl

end Provision
