import Provision.Proofs.Store.Ledger

/-! # Places of a store

An object lives in a place, which is a space of its owner. Where no edge leads from one place to another,
a call that names objects of one place only is answered from the records and edges of this place, and
leaves those of all other places alone.
-/

namespace Provision

/-- A space of a tenant. -/
structure TenantSpace where
  user : UInt32
  space : String
  deriving DecidableEq

/-- Where an object lives, and its siblings with it. -/
def ObjectKey.place (key : ObjectKey) : TenantSpace := ⟨key.user, key.space⟩

namespace MemoryStore

/-- No edge leads from one place to another. -/
def Local (store : MemoryStore) : Prop :=
  ∀ ⦃master slave⦄, store.Relies master slave → master.place = slave.place

/-- Two stores have the same records in a place, and the same edges at its objects. -/
structure AgreesOn (place : TenantSpace) (store other : MemoryStore) : Prop where
  records : ∀ key, key.place = place → other.record? key = store.record? key
  edges : ∀ master slave, master.place = place ∨ slave.place = place →
    (other.Relies master slave ↔ store.Relies master slave)

variable {place elsewhere : TenantSpace} {store other last : MemoryStore} {call : StoreCall} {key : ObjectKey}

theorem local_empty : empty.Local := fun _ _ edge => absurd edge not_relies_empty

namespace AgreesOn

theorem refl (place : TenantSpace) (store : MemoryStore) : store.AgreesOn place store :=
  ⟨fun _ _ => rfl, fun _ _ _ => Iff.rfl⟩

theorem symm (agrees : store.AgreesOn place other) : other.AgreesOn place store :=
  ⟨fun key home => (agrees.records key home).symm,
    fun master slave home => (agrees.edges master slave home).symm⟩

theorem trans (first : store.AgreesOn place other) (second : other.AgreesOn place last) :
    store.AgreesOn place last :=
  ⟨fun key home => (second.records key home).trans (first.records key home),
    fun master slave home => (second.edges master slave home).trans (first.edges master slave home)⟩

end AgreesOn

/-! ## What a call to one place leaves -/

section After

variable (within : call.Within (·.place = place))

include within

theorem Local.after (sealed : store.Local) : (store.after call).Local := by
  intro master slave edge
  rw [relies_after] at edge
  cases call with
  | link a b =>
      rcases edge with ⟨rfl, rfl⟩ | old
      · exact within.1.trans within.2.symm
      · exact sealed old
  | unlink | release | remove => exact sealed edge.1
  | get | has | write | masters => exact sealed edge

/-- Other places are left as they are. -/
theorem agreesOn_after (sealed : store.Local) (apart : elsewhere ≠ place) :
    store.AgreesOn elsewhere (store.after call) := by
  have differs : ∀ {a b : ObjectKey}, a.place = place → b.place = elsewhere → a ≠ b := by
    rintro a b home there rfl
    exact apart (there.symm.trans home)
  have untouched : ∀ {a master slave : ObjectKey}, a.place = place → store.Relies master slave →
      master.place = elsewhere ∨ slave.place = elsewhere → master ≠ a := by
    rintro a master slave home edge there rfl
    rcases there with at' | at'
    · exact differs home at' rfl
    · exact differs home ((sealed edge).trans at') rfl
  constructor
  · intro key there
    rw [record?_after]
    cases call with
    | write a | remove a => exact if_neg (differs within there)
    | get | has | link | unlink | release | masters => rfl
  · intro master slave there
    rw [relies_after]
    cases call with
    | link a b =>
        refine or_iff_right ?_
        rintro ⟨rfl, rfl⟩
        exact there.elim (fun at' => differs within.1 at' rfl) fun at' => differs within.2 at' rfl
    | unlink a b => exact and_iff_left_of_imp fun edge same => untouched within.1 edge there same.1
    | release a => exact and_iff_left_of_imp fun edge => untouched within edge there
    | remove a => exact and_iff_left_of_imp fun edge same => untouched within edge there same.1
    | get | has | write | masters => exact Iff.rfl

end After

/-! ## Stores that agree on what is known -/

/-- Two stores have the same records of the objects that are known, and the same edges at these. -/
structure AgreesAt (known : ObjectKey → Prop) (store other : MemoryStore) : Prop where
  records : ∀ key, known key → other.record? key = store.record? key
  edges : ∀ master slave, known master ∨ known slave → (other.Relies master slave ↔ store.Relies master slave)

theorem agreesOn_iff : store.AgreesOn place other ↔ store.AgreesAt (·.place = place) other :=
  ⟨fun agrees => ⟨agrees.records, agrees.edges⟩, fun agrees => ⟨agrees.records, agrees.edges⟩⟩

variable {known : ObjectKey → Prop}

theorem listed_congr {map map' : ObjectMap ObjectSet}
    (same : ∀ object, map'.Joins key object ↔ map.Joins key object) :
    (map'[key]?.map (·.toList)).getD [] = (map[key]?.map (·.toList)).getD [] := by
  have listed : ∀ map : ObjectMap ObjectSet,
      (map[key]?.map (·.toList)).getD [] = (map[key]?.getD ∅).toList := by
    intro map
    cases map[key]? <;> simp
  have member : ∀ (map : ObjectMap ObjectSet) object, object ∈ map[key]?.getD ∅ ↔ map.Joins key object := by
    intro map object
    cases found : map[key]? <;> simp [ObjectMap.Joins, found]
  rw [listed, listed]
  refine congrArg Std.ExtTreeSet.toList (Std.ExtTreeSet.ext_mem fun object => ?_)
  rw [member, member, same]

namespace AgreesAt

variable (agrees : store.AgreesAt known other)

include agrees

theorem hasRecord (home : known key) : other.hasRecord key = store.hasRecord key := by
  rw [hasRecord_eq, hasRecord_eq, agrees.records key home]

theorem slavesOf (home : known key) : other.slavesOf key = store.slavesOf key := by
  refine listed_congr fun slave => ?_
  rw [← relies_iff, ← relies_iff, agrees.edges key slave (.inl home)]

theorem mastersOf (paired : store.Paired) (paired' : other.Paired) (home : known key) :
    other.mastersOf key = store.mastersOf key := by
  refine listed_congr fun master => ?_
  rw [← paired, ← paired', ← relies_iff, ← relies_iff, agrees.edges master key (.inr home)]

variable (within : call.Within known)

include within

theorem answer (paired : store.Paired) (paired' : other.Paired) :
    (other.answer call).1 = (store.answer call).1 := by
  cases call with
  | get key =>
      simp only [MemoryStore.answer, agrees.records key within]
      cases store.record? key <;> rfl
  | has key => simp only [MemoryStore.answer, agrees.hasRecord within]
  | remove key =>
      simp only [MemoryStore.answer, remove?, agrees.hasRecord within]
      cases store.hasRecord key <;> rfl
  | masters key => simp only [MemoryStore.answer, agrees.mastersOf paired paired' within]
  | release key => simp only [MemoryStore.answer, MemoryStore.release, agrees.slavesOf within]
  | write | link | unlink => rfl

theorem after : (store.after call).AgreesAt known (other.after call) := by
  constructor
  · intro key home
    rw [record?_after, record?_after, agrees.records key home]
  · intro master slave home
    rw [relies_after, relies_after, agrees.edges master slave home]
    cases call with
    | remove a => simp only [agrees.hasRecord within]
    | get | has | write | link | unlink | release | masters => exact Iff.rfl

end AgreesAt

end MemoryStore

end Provision
