import Mathlib.Data.List.Forall2
import Mathlib.Data.Option.Defs
import ModularSynth.Json.Codec

/-!
This module contains that values come back from their JSON forms, also when fields that their types
do not declare are added to the objects on the way.
-/

namespace ModularSynth
namespace Json

/-- Which JSON values are others with unknown fields added to their objects. -/
abbrev Widening := Json → Json → Prop

namespace Widening

/-- The value holds no objects. -/
def Plain : Widening :=
  Eq

def Exactly (name : String) : Widening :=
  fun json json' => json = .string name ∧ json' = .string name

inductive Items (w : Widening) : Json → Json → Prop
  | array {items items' : List Json} (h : List.Forall₂ w items items') :
    Items w (.array items) (.array items')

/-- Fields with declared names are widened in their places, others may be added anywhere. -/
inductive Fields (declared : List (String × Widening)) :
    List (String × Json) → List (String × Json) → Prop
  | nil : Fields declared [] []
  | known {name : String} {w : Widening} {json json' : Json} {fields fields' : List (String × Json)}
    (hname : declared.lookup name = some w) (hvalue : w json json')
    (hrest : Fields declared fields fields') :
    Fields declared ((name, json) :: fields) ((name, json') :: fields')
  | unknown {name : String} {json : Json} {fields fields' : List (String × Json)}
    (hname : declared.lookup name = none) (hrest : Fields declared fields fields') :
    Fields declared fields ((name, json) :: fields')

inductive Struct (declared : List (String × Widening)) : Json → Json → Prop
  | object {fields fields' : List (String × Json)} (h : Fields declared fields fields') :
    Struct declared (.object fields) (.object fields')

/-- The tag decides which fields are declared besides it. -/
inductive Tagged (tag : String) (shapes : List (String × List (String × Widening))) :
    Json → Json → Prop
  | shape (name : String) {declared : List (String × Widening)} {json json' : Json}
    (hname : shapes.lookup name = some declared)
    (h : Struct ((tag, Exactly name) :: declared) json json') :
    Tagged tag shapes json json'

def endpoint : Widening :=
  Tagged "kind"
    [("port", [("module", Plain), ("port", Plain)]),
      ("slot", [("module", Plain), ("port", Plain), ("index", Plain)]),
      ("param", [("module", Plain), ("param", Plain)]),
      ("sink", [])]

def connection : Widening :=
  Struct [("source", endpoint), ("target", endpoint), ("signal", Plain)]

def moduleEntry : Widening :=
  Struct [("id", Plain), ("kind", Plain)]

def connectionRecord : Widening :=
  Struct [("source", Plain), ("target", Plain), ("signal", Plain)]

def snapshot : Widening :=
  Struct [("modules", Items moduleEntry), ("connections", Items connectionRecord)]

def connectionEntry : Widening :=
  Struct [("source", Plain), ("target", Plain)]

def patchFile : Widening :=
  Struct
    [("name", Plain), ("description", Plain), ("modules", Items moduleEntry),
      ("connections", Items connectionEntry)]

theorem Fields.lookup {declared : List (String × Widening)} {fields fields' : List (String × Json)}
    (h : Fields declared fields fields') (name : String) {w : Widening}
    (hname : declared.lookup name = some w) :
    Option.Rel w (fields.lookup name) (fields'.lookup name) := by
  induction h with
  | nil => exact .none
  | @known other _ _ _ _ _ hother hvalue _ ih =>
    rw [List.lookup_cons, List.lookup_cons]
    by_cases heq : name = other
    . rw [← heq, hname, Option.some.injEq] at hother
      rw [heq, beq_self_eq_true, hother]
      exact .some hvalue
    . rw [beq_false_of_ne heq]
      exact ih
  | @unknown other _ _ _ hother _ ih =>
    have hne : name ≠ other := by
      rintro rfl
      rw [hname] at hother
      contradiction
    rw [List.lookup_cons, beq_false_of_ne hne]
    exact ih

theorem Fields.tag {declared : List (String × Widening)} {fields fields' : List (String × Json)}
    {tag name written : String} (h : Fields ((tag, Exactly name) :: declared) fields fields')
    (htag : fields.lookup tag = some (.string written)) :
    written = name ∧ fields'.lookup tag = some (.string written) := by
  have hlookup := h.lookup tag List.lookup_cons_self
  rw [htag] at hlookup
  generalize fields'.lookup tag = field at hlookup ⊢
  rcases hlookup with ⟨hwritten, hread⟩
  cases hwritten
  exact ⟨rfl, congrArg some hread⟩

end Widening

/-- What is written of a value is read as that value, and so is what it is widened to. -/
structure Faithful (α : Type) [Codec α] (w : Widening) : Prop where
  written : ∀ a : α, w (encode a) (encode a)
  read : ∀ (a : α) (json : Json), w (encode a) json → decode? json = some a

open Widening

section Faithful

variable {α : Type} [Codec α] {w : Widening} (h : Faithful α w)
include h

theorem Faithful.mapM_decode? {items : List α} {items' : List Json}
    (hitems : List.Forall₂ w (items.map encode) items') : items'.mapM decode? = some items := by
  induction items generalizing items' with
  | nil =>
    cases hitems
    rfl
  | cons a rest ih =>
    cases hitems with
    | cons ha hrest =>
      rw [List.mapM_cons, h.read a _ ha, ih hrest]
      rfl

theorem Faithful.items : Faithful (List α) (Items w) where
  written := by
    intro items
    apply Items.array
    rw [List.forall₂_map_left_iff, List.forall₂_map_right_iff, List.forall₂_same]
    intro a _
    exact h.written a
  read := by
    rintro items _ ⟨hitems⟩
    exact h.mapM_decode? hitems

theorem Faithful.required? {a : α} {field : Option Json}
    (hfield : Option.Rel w (some (encode a)) field) : Json.required? field = some a := by
  cases hfield with
  | some hvalue => exact h.read a _ hvalue

theorem Faithful.optional? {a : α} {field : Option Json}
    (hfield : Option.Rel w (some (encode a)) field) (default : α) :
    Json.optional? default field = some a := by
  cases hfield with
  | some hvalue => exact h.read a _ hvalue

end Faithful

section Plain

theorem faithful_plain {α : Type} [Codec α] (h : ∀ a : α, decode? (encode a) = some a) :
    Faithful α Plain where
  written := fun _ => rfl
  read := by
    rintro a _ rfl
    exact h a

theorem faithful_string : Faithful String Plain := by
  apply faithful_plain
  intro s
  rfl

theorem faithful_moduleId : Faithful ModuleId Plain := by
  apply faithful_plain
  intro id
  rfl

theorem faithful_signal : Faithful Signal Plain := by
  apply faithful_plain
  exact Signal.ofName?_name

theorem faithful_optionalString : Faithful (Option String) Plain := by
  apply faithful_plain
  intro s
  cases s <;> rfl

theorem faithful_index : Faithful UInt64 Plain := by
  apply faithful_plain
  intro n
  have hrange : 0 ≤ (n.toNat : Int) ∧ (n.toNat : Int) < UInt64.size :=
    ⟨Int.natCast_nonneg _, Int.ofNat_lt.2 n.toNat_lt⟩
  show (if 0 ≤ (n.toNat : Int) ∧ (n.toNat : Int) < UInt64.size then _ else _) = _
  rw [if_pos hrange, Int.toNat_natCast, UInt64.ofNat_toNat]

end Plain

theorem faithful_endpoint : Faithful Endpoint endpoint where
  written := by
    intro e
    cases e with
    | port m name =>
      apply Tagged.shape "port" rfl
      exact .object (.known rfl ⟨rfl, rfl⟩ (.known rfl rfl (.known rfl rfl .nil)))
    | slot m name index =>
      apply Tagged.shape "slot" rfl
      exact .object (.known rfl ⟨rfl, rfl⟩ (.known rfl rfl (.known rfl rfl (.known rfl rfl .nil))))
    | param m name =>
      apply Tagged.shape "param" rfl
      exact .object (.known rfl ⟨rfl, rfl⟩ (.known rfl rfl (.known rfl rfl .nil)))
    | sink =>
      apply Tagged.shape "sink" rfl
      exact .object (.known rfl ⟨rfl, rfl⟩ .nil)
  read := by
    intro e _ h
    rcases h with ⟨shape, hname, h⟩
    cases e with
    | port m name =>
      rcases h with ⟨h⟩
      rcases h.tag rfl with ⟨rfl, htag⟩
      cases hname
      have hmodule := faithful_moduleId.required? (h.lookup "module" rfl)
      have hport := faithful_string.required? (h.lookup "port" rfl)
      simp [decode?, tagged?, endpointFields?, fields?, htag, hmodule, hport]
    | slot m name index =>
      rcases h with ⟨h⟩
      rcases h.tag rfl with ⟨rfl, htag⟩
      cases hname
      have hmodule := faithful_moduleId.required? (h.lookup "module" rfl)
      have hport := faithful_string.required? (h.lookup "port" rfl)
      have hindex := faithful_index.required? (h.lookup "index" rfl)
      simp [decode?, tagged?, endpointFields?, fields?, htag, hmodule, hport, hindex]
    | param m name =>
      rcases h with ⟨h⟩
      rcases h.tag rfl with ⟨rfl, htag⟩
      cases hname
      have hmodule := faithful_moduleId.required? (h.lookup "module" rfl)
      have hparam := faithful_string.required? (h.lookup "param" rfl)
      simp [decode?, tagged?, endpointFields?, fields?, htag, hmodule, hparam]
    | sink =>
      rcases h with ⟨h⟩
      rcases h.tag rfl with ⟨rfl, htag⟩
      simp [decode?, tagged?, endpointFields?, fields?, htag]

theorem faithful_connection : Faithful Connection connection where
  written := by
    intro c
    have hsource := faithful_endpoint.written c.source
    have htarget := faithful_endpoint.written c.target
    exact .object (.known rfl hsource (.known rfl htarget (.known rfl rfl .nil)))
  read := by
    rintro c _ ⟨h⟩
    have hsource := faithful_endpoint.required? (h.lookup "source" rfl)
    have htarget := faithful_endpoint.required? (h.lookup "target" rfl)
    have hsignal := faithful_signal.required? (h.lookup "signal" rfl)
    simp [decode?, fields?, hsource, htarget, hsignal]

theorem faithful_moduleEntry : Faithful ModuleEntry moduleEntry where
  written := by
    intro m
    exact .object (.known rfl rfl (.known rfl rfl .nil))
  read := by
    rintro m _ ⟨h⟩
    have hid := faithful_string.required? (h.lookup "id" rfl)
    have hkind := faithful_string.required? (h.lookup "kind" rfl)
    simp [decode?, fields?, hid, hkind]

theorem faithful_connectionRecord : Faithful ConnectionRecord connectionRecord where
  written := by
    intro c
    exact .object (.known rfl rfl (.known rfl rfl (.known rfl rfl .nil)))
  read := by
    rintro c _ ⟨h⟩
    have hsource := faithful_string.required? (h.lookup "source" rfl)
    have htarget := faithful_string.required? (h.lookup "target" rfl)
    have hsignal := faithful_signal.required? (h.lookup "signal" rfl)
    simp [decode?, fields?, hsource, htarget, hsignal]

theorem faithful_snapshot : Faithful Snapshot snapshot where
  written := by
    intro s
    have hmodules := faithful_moduleEntry.items.written s.modules
    have hconnections := faithful_connectionRecord.items.written s.connections
    exact .object (.known rfl hmodules (.known rfl hconnections .nil))
  read := by
    rintro s _ ⟨h⟩
    have hmodules := faithful_moduleEntry.items.required? (h.lookup "modules" rfl)
    have hconnections :=
      faithful_connectionRecord.items.required? (h.lookup "connections" rfl)
    simp [decode?, fields?, hmodules, hconnections]

theorem faithful_connectionEntry : Faithful ConnectionEntry connectionEntry where
  written := by
    intro c
    exact .object (.known rfl rfl (.known rfl rfl .nil))
  read := by
    rintro c _ ⟨h⟩
    have hsource := faithful_string.required? (h.lookup "source" rfl)
    have htarget := faithful_string.required? (h.lookup "target" rfl)
    simp [decode?, fields?, hsource, htarget]

theorem faithful_patchFile : Faithful PatchFile patchFile where
  written := by
    rintro ⟨name, description, modules, connections⟩
    have hmodules := faithful_moduleEntry.items.written modules
    have hconnections := faithful_connectionEntry.items.written connections
    cases description with
    | none => exact .object (.known rfl rfl (.known rfl hmodules (.known rfl hconnections .nil)))
    | some description =>
      exact .object
        (.known rfl rfl (.known rfl rfl (.known rfl hmodules (.known rfl hconnections .nil))))
  read := by
    rintro ⟨name, description, modules, connections⟩ _ h
    cases h with
    | @object _ fields h =>
      have hname := faithful_string.required? (a := name) (h.lookup "name" rfl)
      have hdescription : Json.optional? none (fields.lookup "description") = some description := by
        have hfield := h.lookup "description" rfl
        cases description with
        | none =>
          generalize fields.lookup "description" = field at hfield ⊢
          cases hfield
          rfl
        | some description =>
          exact faithful_optionalString.optional? (a := some description) hfield none
      have hmodules : Json.optional? [] (fields.lookup "modules") = some modules := by
        cases description <;>
          exact faithful_moduleEntry.items.optional? (h.lookup "modules" rfl) []
      have hconnections : Json.optional? [] (fields.lookup "connections") = some connections := by
        cases description <;>
          exact faithful_connectionEntry.items.optional? (h.lookup "connections" rfl) []
      simp [decode?, fields?, hname, hdescription, hmodules, hconnections]

/-- Writing a value and reading it gives the value again, whatever was added to it in between. -/
structure RoundTrips (α : Type) [Codec α] (w : Widening) : Prop where
  written : ∀ a : α, w (encode a) (encode a)
  same : ∀ a : α, decode? (encode a) = some a
  widened : ∀ (a : α) (json : Json), w (encode a) json → decode? json = some a
  again : ∀ (json : Json) (a : α), decode? json = some a → decode? (encode a) = some a

theorem Faithful.roundTrips {α : Type} [Codec α] {w : Widening} (h : Faithful α w) :
    RoundTrips α w where
  written := h.written
  same := fun a => h.read a _ (h.written a)
  widened := h.read
  again := fun _ a _ => h.read a _ (h.written a)

/--
Endpoints, connections, snapshots and patch files come back from their JSON forms, with unknown
fields in any of the objects or without, and what is read from any JSON value can be written and
read once more.
-/
theorem codecs_roundTrip :
    RoundTrips Endpoint endpoint ∧ RoundTrips Connection connection
      ∧ RoundTrips Snapshot snapshot ∧ RoundTrips PatchFile patchFile := by
  exact ⟨faithful_endpoint.roundTrips, faithful_connection.roundTrips,
    faithful_snapshot.roundTrips, faithful_patchFile.roundTrips⟩

/-- A port has no field `index`, so there it is an unknown one. -/
example : decode? (.object [("index", .integer 3), ("kind", .string "port"),
    ("module", .string "osc"), ("port", .string "out")]) = some (Endpoint.port ⟨"osc"⟩ "out") := by
  rfl

end Json
end ModularSynth
