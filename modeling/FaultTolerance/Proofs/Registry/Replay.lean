import Mathlib.Logic.Function.Basic
import FaultTolerance.Validation
import FaultTolerance.Proofs.Registry.Resolution

/-! The entries of a registry and the events that tell of them.

A reader who sees nothing of a registry but its events knows its entries (`replay`). Of a `Call` an
event is published exactly if it changes an entry, and the event says which one, and what stands
there before and after (`Effect`).

What makes the instances may do so differently from call to call, and may fail; a call carries along
what it would make. So that it is not used at all says that the call comes to the same whatever it
would make.

The main theorem is **`events_replay`**. -/
namespace FaultTolerance.Registry
variable {κ τ : Type}

/-! ### Events -/

namespace Event

/-- The entries after an event, by those before it. -/
def replay (known : String → Option (Entry τ)) : Event τ → String → Option (Entry τ)
  | added name entry => Function.update known name (some entry)
  | removed name _ => Function.update known name none
  | replaced name _ new => Function.update known name (some new)

/-- An event tells what was there before. -/
def Fits (known : String → Option (Entry τ)) : Event τ → Prop
  | added name _ => known name = none
  | removed name entry => known name = some entry
  | replaced name old _ => known name = some old

end Event

/-- The entries that events tell of, from the first one on. -/
def replay (events : List (Event τ)) : String → Option (Entry τ) :=
  events.foldl Event.replay fun _ => none

/-- Each event fits what is known when it is published. -/
def Truthful (known : String → Option (Entry τ)) : List (Event τ) → Prop
  | [] => True
  | e :: rest => e.Fits known ∧ Truthful (e.replay known) rest

theorem replay_concat (events : List (Event τ)) (e : Event τ) :
    replay (events ++ [e]) = e.replay (replay events) := List.foldl_append ..

theorem Truthful.concat {known : String → Option (Entry τ)} {events : List (Event τ)}
    {e : Event τ} (h : Truthful known events) (hfits : e.Fits (events.foldl Event.replay known)) :
    Truthful known (events ++ [e]) := by
  induction events generalizing known with
  | nil => exact ⟨hfits, trivial⟩
  | cons first rest ih => exact ⟨h.1, ih h.2 hfits⟩

/-! ### Calls -/

inductive Call (κ τ : Type) where
  /-- Asks for the entry of a name. `make` makes the instance if there is none. -/
  | get (make : String → κ → Except Error τ) (name : String) (source : Source κ)
    (tags : Catalog String)
  | remove (name : String)
  | replace (name : String) (new : Entry τ)
  | define (d : Definition κ)

/-- The registry after a call, what it publishes, and which entry it answers or why it fails. -/
def Call.apply (r : Registry κ τ) :
    Call κ τ → Registry κ τ × List (Event τ) × Except Error (Option (Entry τ))
  | get make name source tags =>
    match ({ r with make } : Registry κ τ).getOrCreate name source tags with
    | .ok (m, events, entry) => ({ m with make := r.make }, events, .ok (some entry))
    | .error e => (r, [], .error e)
  | remove name =>
    let (m, events, entry) := r.remove name
    (m, events, .ok entry)
  | replace name new =>
    let (m, events, old) := r.replace name new
    (m, events, .ok old)
  | define d =>
    let (m, answer) := d.apply r
    (m, [], answer.map fun _ => none)

/-- A registry and all that it has published. -/
structure Journal (κ τ : Type) where
  registry : Registry κ τ
  events : List (Event τ) := []

def Journal.next (s : Journal κ τ) (call : Call κ τ) : Journal κ τ :=
  let (r, events, _) := call.apply s.registry
  { registry := r, events := s.events ++ events }

/-! ### What a call does -/

section Calls
variable {r m : Registry κ τ} {make : String → κ → Except Error τ} {name : String}
  {source : Source κ} {tags : Catalog String} {entry : Entry τ} {answer : Option (Entry τ)}
  {events : List (Event τ)}

/-- What a call does to the entries, and what it publishes. -/
inductive Effect (r m : Registry κ τ) : List (Event τ) → Prop
  | kept (hentries : m.entries = r.entries) : Effect r m []
  | added {name : String} {entry : Entry τ} (hnew : r.find? name = none)
    (hentries : m.entries = r.entries.put name entry) : Effect r m [.added name entry]
  | removed {name : String} {entry : Entry τ} (hold : r.find? name = some entry)
    (hentries : m.entries = r.entries.erase name) : Effect r m [.removed name entry]
  | replaced {name : String} {old new : Entry τ} (hold : r.find? name = some old)
    (hentries : m.entries = r.entries.put name new) : Effect r m [.replaced name old new]

/-- An entry that is there is answered as it is. -/
theorem get_of_found (make : String → κ → Except Error τ) (source : Source κ)
    (tags : Catalog String) (h : r.find? name = some entry) :
    (Call.get make name source tags).apply r = (r, [], .ok (some entry)) := by
  have hfound : ({ r with make } : Registry κ τ).find? name = some entry := h
  simp only [Call.apply, getOrCreate, hfound]

/-- The entry that a registry makes of an instance. -/
def entryOf (r : Registry κ τ) (name : String) (tags : Catalog String) (value : τ) : Entry τ :=
  (r.enter name tags value).2

/-- The instance of a new entry, if there is a configuration for it and it can be made. -/
def instanceOf (r : Registry κ τ) (make : String → κ → Except Error τ) (name : String)
    (source : Source κ) : Except Error τ := do
  let config ← r.configurationOf source
  make name config

theorem instanceOf_eq_error :
    (∃ e, r.instanceOf make name source = .error e) ↔
      ∀ config, r.configurationOf source = .ok config → ∃ e, make name config = .error e := by
  unfold instanceOf
  cases r.configurationOf source with
  | error e => exact iff_of_true ⟨e, rfl⟩ nofun
  | ok config =>
    refine ⟨fun h c hc => ?_, fun h => h config rfl⟩
    cases hc
    exact h

/-- An entry that is not there is made of its instance, and stored. -/
theorem get_of_new (make : String → κ → Except Error τ) (source : Source κ)
    (tags : Catalog String) (h : r.find? name = none) :
    (Call.get make name source tags).apply r =
      match r.instanceOf make name source with
      | .ok value =>
        let entry := r.entryOf name tags value
        ({ r with entries := r.entries.put name entry, nextSerial := r.nextSerial + 1 },
          [.added name entry], .ok (some entry))
      | .error e => (r, [], .error e) := by
  have hnew : ({ r with make } : Registry κ τ).find? name = none := h
  have hconfig : ({ r with make } : Registry κ τ).configurationOf source =
      r.configurationOf source := by
    cases source <;> rfl
  simp only [Call.apply, getOrCreate, hnew, hconfig, instanceOf]
  cases r.configurationOf source with
  | error e => rfl
  | ok config =>
    simp only [bind, Except.bind]
    cases make name config <;> rfl

/-- What is answered is stored. -/
theorem get_stored (h : (Call.get make name source tags).apply r = (m, events, .ok answer)) :
    ∃ entry, answer = some entry ∧ m.find? name = some entry := by
  cases hfound : r.find? name with
  | some entry =>
    rw [get_of_found make source tags hfound] at h
    cases h
    exact ⟨entry, rfl, hfound⟩
  | none =>
    rw [get_of_new make source tags hfound] at h
    cases hinstance : r.instanceOf make name source with
    | error e =>
      rw [hinstance] at h
      cases h
    | ok value =>
      rw [hinstance] at h
      cases h
      exact ⟨_, rfl, Catalog.find?_put_self ..⟩

/-- When nothing is answered. -/
theorem get_eq_error :
    (∃ e, ((Call.get make name source tags).apply r).2.2 = .error e) ↔ r.find? name = none ∧
      ∀ config, r.configurationOf source = .ok config → ∃ e, make name config = .error e := by
  rw [← instanceOf_eq_error]
  cases hfound : r.find? name with
  | some entry => simp [get_of_found make source tags hfound]
  | none =>
    rw [get_of_new make source tags hfound]
    cases r.instanceOf make name source with
    | error e => exact iff_of_true ⟨e, rfl⟩ ⟨rfl, e, rfl⟩
    | ok value => exact iff_of_false nofun nofun

/-- All that matters of `make` is what it makes of the configuration of a new entry. -/
theorem get_congr {other : String → κ → Except Error τ}
    (h : r.find? name = none → ∀ config, r.configurationOf source = .ok config →
      other name config = make name config) :
    (Call.get other name source tags).apply r = (Call.get make name source tags).apply r := by
  cases hfound : r.find? name with
  | some entry => rw [get_of_found other source tags hfound, get_of_found make source tags hfound]
  | none =>
    have hsame : r.instanceOf other name source = r.instanceOf make name source := by
      unfold instanceOf
      cases hconfig : r.configurationOf source with
      | error e => rfl
      | ok config => exact h hfound config hconfig
    rw [get_of_new other source tags hfound, get_of_new make source tags hfound, hsame]

theorem remove_of_new (h : r.find? name = none) :
    (Call.remove name).apply r = (r, [], .ok none) := by
  simp only [Call.apply, Registry.remove, h]

theorem replace_of_new (new : Entry τ) (h : r.find? name = none) :
    (Call.replace name new).apply r = (r, [], .ok none) := by
  simp only [Call.apply, Registry.replace, h]

/-- **A call publishes what it does to the entries.** -/
theorem Call.apply_effect (r : Registry κ τ) (call : Call κ τ) :
    Effect r (call.apply r).1 (call.apply r).2.1 := by
  cases call with
  | get make name source tags =>
    cases hfound : r.find? name with
    | some entry =>
      rw [get_of_found make source tags hfound]
      exact .kept rfl
    | none =>
      rw [get_of_new make source tags hfound]
      cases r.instanceOf make name source with
      | error e => exact .kept rfl
      | ok value => exact .added hfound rfl
  | remove name =>
    cases hfound : r.find? name with
    | none =>
      rw [remove_of_new hfound]
      exact .kept rfl
    | some entry =>
      simp only [apply, Registry.remove, hfound]
      exact .removed hfound rfl
  | replace name new =>
    cases hfound : r.find? name with
    | none =>
      rw [replace_of_new new hfound]
      exact .kept rfl
    | some old =>
      simp only [apply, Registry.replace, hfound]
      exact .replaced hfound rfl
  | define d =>
    simp only [apply, Definition.apply]
    rcases r.insertTemplate_cases d.name d.template with ⟨-, -, hstored⟩ | ⟨-, e, hfailed⟩
    · rw [hstored]
      exact .kept rfl
    · rw [hfailed]
      exact .kept rfl

/-- A call that fails publishes nothing, and leaves the registry as it was. -/
theorem Call.apply_failed {call : Call κ τ} {e : Error} (h : (call.apply r).2.2 = .error e) :
    call.apply r = (r, [], .error e) := by
  cases call with
  | get make name source tags =>
    cases hfound : r.find? name with
    | some entry =>
      rw [get_of_found make source tags hfound] at h
      cases h
    | none =>
      rw [get_of_new make source tags hfound] at h ⊢
      cases hinstance : r.instanceOf make name source with
      | error e' =>
        rw [hinstance] at h
        cases h
        rfl
      | ok value =>
        rw [hinstance] at h
        cases h
  | remove _ | replace _ _ => cases h
  | define d =>
    simp only [apply, Definition.apply] at h ⊢
    rcases r.insertTemplate_cases d.name d.template with ⟨-, -, hstored⟩ | ⟨-, e', hfailed⟩
    · rw [hstored] at h
      cases h
    · rw [hfailed] at h ⊢
      cases h
      rfl

end Calls

/-! ### What the events tell -/

theorem find?_put (entries : Catalog (Entry τ)) (name : String) (entry : Entry τ) :
    (entries.put name entry).find? = Function.update entries.find? name (some entry) := by
  funext other
  by_cases hsame : other = name
  · rw [hsame, Function.update_self, Catalog.find?_put_self]
  · rw [Function.update_of_ne hsame, Catalog.find?_put_of_ne _ _ (Ne.symm hsame)]

theorem find?_erase (entries : Catalog (Entry τ)) (name : String) :
    (entries.erase name).find? = Function.update entries.find? name none := by
  funext other
  by_cases hsame : other = name
  · rw [hsame, Function.update_self, Catalog.find?_erase_self]
  · rw [Function.update_of_ne hsame, Catalog.find?_erase_of_ne _ (Ne.symm hsame)]

/-- A registry whose entries are those that events tell of. -/
structure Told (r : Registry κ τ) (events : List (Event τ)) : Prop where
  replay_eq : replay events = r.find?
  truthful : Truthful (fun _ => none) events

namespace Told
variable {r m : Registry κ τ} {events new : List (Event τ)}

theorem effect (h : Told r events) (heffect : Effect r m new) : Told m (events ++ new) := by
  have hmore {e : Event τ} (hfits : e.Fits r.find?) (hreplay : e.replay r.find? = m.find?) :
      Told m (events ++ [e]) := by
    rw [← h.replay_eq] at hfits hreplay
    exact ⟨(replay_concat events e).trans hreplay, h.truthful.concat hfits⟩
  have hfind {entries : Catalog (Entry τ)} (hentries : m.entries = entries) :
      m.find? = entries.find? := congrArg Catalog.find? hentries
  cases heffect with
  | kept hentries =>
    rw [List.append_nil]
    exact ⟨h.replay_eq.trans (hfind hentries).symm, h.truthful⟩
  | added hnew hentries => exact hmore hnew ((hfind hentries).trans (find?_put ..)).symm
  | removed hold hentries => exact hmore hold ((hfind hentries).trans (find?_erase ..)).symm
  | replaced hold hentries => exact hmore hold ((hfind hentries).trans (find?_put ..)).symm

theorem next {s : Journal κ τ} (h : Told s.registry s.events) (call : Call κ τ) :
    Told (s.next call).registry (s.next call).events :=
  h.effect (call.apply_effect s.registry)

theorem run {s : Journal κ τ} (h : Told s.registry s.events) (calls : List (Call κ τ)) :
    Told (calls.foldl Journal.next s).registry (calls.foldl Journal.next s).events := by
  induction calls generalizing s with
  | nil => exact h
  | cons call rest ih => exact ih (h.next call)

end Told

/-- **Replaying the events of a registry yields its entries.** Whatever was called, and whichever
calls failed, the events lead from no entries to the current ones, and each of them tells what was
there. An entry that is there is answered as it is, from whatever configuration it is asked for and
whatever would be made of it. For any other one nothing is asked for but an instance of the
configuration that its source stands for; the entry is stored if it is answered, and it is not
answered exactly if there is no such configuration or no such instance. A call that fails, and one
that takes out or replaces what is not there, changes nothing and publishes nothing. -/
theorem events_replay (factory : String → κ → Except Error τ) (standard : κ)
    (shared : Catalog String) (calls : List (Call κ τ)) :
    let s := calls.foldl Journal.next { registry := new standard factory shared }
    let r := s.registry
    replay s.events = r.find? ∧ Truthful (fun _ => none) s.events ∧
      (∀ make name source tags,
        let call := Call.get make name source tags
        (∀ entry, r.find? name = some entry → call.apply r = (r, [], .ok (some entry))) ∧
        (∀ m events answer, call.apply r = (m, events, .ok answer) →
          ∃ entry, answer = some entry ∧ m.find? name = some entry) ∧
        ((∃ e, (call.apply r).2.2 = .error e) ↔ r.find? name = none ∧
          ∀ config, r.configurationOf source = .ok config → ∃ e, make name config = .error e) ∧
        ∀ other, (r.find? name = none → ∀ config, r.configurationOf source = .ok config →
            other name config = make name config) →
          (Call.get other name source tags).apply r = call.apply r) ∧
      (∀ call e, (call.apply r).2.2 = .error e → s.next call = s) ∧
      ∀ name new, r.find? name = none →
        s.next (.remove name) = s ∧ s.next (.replace name new) = s := by
  intro s r
  have htold : Told s.registry s.events :=
    Told.run (s := { registry := new standard factory shared }) ⟨rfl, trivial⟩ calls
  clear_value s
  have hidle {call : Call κ τ} {answer : Except Error (Option (Entry τ))}
      (hcall : call.apply r = (r, [], answer)) : s.next call = s := by
    unfold Journal.next
    rw [hcall]
    dsimp only
    rw [List.append_nil]
  refine ⟨htold.replay_eq, htold.truthful, fun make name source tags => ?_,
    fun call e hfailed => ?_, fun name new hnone => ?_⟩
  · exact ⟨fun entry hfound => get_of_found make source tags hfound,
      fun m events answer hok => get_stored hok, get_eq_error, fun other hsame => get_congr hsame⟩
  · exact hidle (Call.apply_failed hfailed)
  · exact ⟨hidle (remove_of_new hnone), hidle (replace_of_new new hnone)⟩

/-- An instance of size zero cannot be made. -/
def sized (name : String) (size : Nat) : Except Error Nat :=
  if size = 0 then .error (.invalidConfig name) else .ok size

/-- One is too small, one has no configuration, the second one of a name is the first, and not
everything that is taken out has been there. -/
def dealings : List (Call Nat Nat) :=
  [.get sized "a" (.given 0) [], .get sized "a" (.shared "big") [], .get sized "a" .standard [],
    .get sized "a" (.given 7) [], .replace "a" ⟨9, "a", [], 3⟩, .get sized "b" (.given 2) [],
    .remove "c", .remove "a"]

theorem dealings_replay :
    let s := dealings.foldl Journal.next { registry := new 1 sized }
    s.events.map (·.kind) = ["ADDED", "REPLACED", "ADDED", "REMOVED"] ∧
      (replay s.events "b").map (·.value) = some 2 ∧ replay s.events "a" = none ∧
      Truthful (fun _ => none) s.events ∧
      (∃ entry, ((Call.get sized "b" (.given 0) []).apply s.registry) =
        (s.registry, [], .ok (some entry)) ∧ entry.value = 2) ∧
      s.next (.get sized "a" (.given 0) []) = s ∧ s.next (.remove "a") = s := by
  intro s
  obtain ⟨hreplay, htruthful, hget, hfailed, habsent⟩ := events_replay sized 1 [] dealings
  have hkinds : s.events.map (·.kind) = ["ADDED", "REPLACED", "ADDED", "REMOVED"] := by
    decide +kernel
  have hb : (s.registry.find? "b").map (·.value) = some 2 := by decide +kernel
  have ha : s.registry.find? "a" = none := Option.map_eq_none_iff.mp
    (show (s.registry.find? "a").map (·.value) = none by decide +kernel)
  obtain ⟨entry, hentry, hvalue⟩ := Option.map_eq_some_iff.mp hb
  have hsmall : ∃ e, ((Call.get sized "a" (.given 0) []).apply s.registry).2.2 = .error e := by
    refine (hget sized "a" (.given 0) []).2.2.1.mpr ⟨ha, fun config hconfig => ?_⟩
    cases hconfig
    exact ⟨_, rfl⟩
  obtain ⟨e, he⟩ := hsmall
  refine ⟨hkinds, ?_, ?_, htruthful, ⟨entry, ?_, hvalue⟩, hfailed _ e he, ?_⟩
  · exact (congrArg (·.map (·.value)) (congrFun hreplay "b")).trans hb
  · exact (congrFun hreplay "a").trans ha
  · exact (hget sized "b" (.given 0) []).1 entry hentry
  · exact (habsent "a" ⟨9, "a", [], 3⟩ ha).1

end FaultTolerance.Registry
