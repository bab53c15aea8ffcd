import Mathlib.Data.List.Perm.Subperm
import TrafficGateway.Proofs.Discovery.Notifier

/-!
# What comes of an event while subscribers come and go

A notifier is asked to subscribe, to unsubscribe and to publish in any order, and whoever is told of an
event may subscribe others and unsubscribe anyone, itself included, in the middle of it. Everything
that happens is noted. From the notes alone, without the notifier, it can be said who is subscribed
(`inForce`): whose subscription was made and not ended.

One invariant carries this (`Keeps`): the lists of the notifier are those that the notes say. Every
single command keeps it (`Keeps.obey`), and with it every script, every event and every run. So an
event goes to those who are subscribed when it is published, whatever they do when they are told; who
comes later is told of the next event, and who has gone of none.

## Main definitions

* `Notifier.made`, `Notifier.ended`, `Notifier.inForce`: what the notes say of subscriptions.
* `Notifier.Command.AnsweredBy`, `Notifier.Script.Notes`, `Notifier.EventNotes`: the notes that a
  command, a script and an event can leave.
* `Notifier.Noted`: the notes and the notifier after any commands, with others told in between.
* `Notifier.Keeps`: the invariant.
* `Notifier.Step`, `Notifier.History`: the runs.
-/

namespace TrafficGateway

namespace Notifier

variable {α : Type}

/-! ## What the notes say -/

/-- The subscriptions that were made, in order. -/
def made (notes : List (Note α)) : List (Subscription α) :=
  notes.filterMap fun note => match note with
    | .subscribed s => some s
    | _ => none

/-- The numbers of the subscriptions that were ended, in order. -/
def ended (notes : List (Note α)) : List Nat :=
  notes.filterMap fun note => match note with
    | .unsubscribed id true => some id
    | _ => none

/-- The subscriptions of a service that were made. -/
def madeFor (notes : List (Note α)) (service : String) : List (Subscription α) :=
  (made notes).filter fun s => s.service == service

/-- The numbers of the subscriptions of a service that were ended. -/
def endedFor (notes : List (Note α)) (service : String) : List Nat :=
  (ended notes).filter fun id => ((madeFor notes service).map (·.id)).contains id

/-- The subscriptions of a service that were made and not ended. -/
def inForce (notes : List (Note α)) (service : String) : List (Subscription α) :=
  (madeFor notes service).filter fun s => !(ended notes).contains s.id

variable {notes more front back : List (Note α)} {note : Note α} {n m : Notifier α}
  {s t : Subscription α} {event : ChangeEvent} {service : String} {id k : Nat} {found : Bool}

@[simp] theorem made_append : made (notes ++ more) = made notes ++ made more :=
  List.filterMap_append
@[simp] theorem made_subscribed : made [.subscribed s] = [s] := rfl
@[simp] theorem made_unsubscribed : made [(.unsubscribed id found : Note α)] = [] := rfl
@[simp] theorem made_counted : made [(.counted service k : Note α)] = [] := rfl
@[simp] theorem made_told : made [.told s event] = [] := rfl

@[simp] theorem ended_append : ended (notes ++ more) = ended notes ++ ended more :=
  List.filterMap_append
@[simp] theorem ended_subscribed : ended [.subscribed s] = [] := rfl
@[simp] theorem ended_found : ended [(.unsubscribed id true : Note α)] = [id] := rfl
@[simp] theorem ended_missing : ended [(.unsubscribed id false : Note α)] = [] := rfl
@[simp] theorem ended_counted : ended [(.counted service k : Note α)] = [] := rfl
@[simp] theorem ended_told : ended [.told s event] = [] := rfl

@[simp] theorem calls_append : calls (notes ++ more) = calls notes ++ calls more :=
  List.filterMap_append

/-- The note answers the command: it tells the same service and callback, the same number, the same
service. -/
inductive Command.AnsweredBy : Command α → Note α → Prop
  | subscribe (service : String) (callback : α) (id : Nat) :
      AnsweredBy (.subscribe service callback) (.subscribed ⟨id, service, callback⟩)
  | unsubscribe (id : Nat) (found : Bool) : AnsweredBy (.unsubscribe id) (.unsubscribed id found)
  | count (service : String) (number : Nat) : AnsweredBy (.count service) (.counted service number)

/-- The notes of a script: each of its commands with an answer, which decides on the commands after
it. -/
inductive Script.Notes : Script α → List (Note α) → Prop
  | done : Notes .done []
  | ask {command : Command α} {next : Note α → Script α} {note : Note α} {notes : List (Note α)}
      (hnote : command.AnsweredBy note) (hnext : (next note).Notes notes) :
      Notes (.ask command next) (note :: notes)

/-- The notes of an event: each target is told and then carries out its script. -/
inductive EventNotes (react : Subscription α → ChangeEvent → Script α) (event : ChangeEvent) :
    List (Subscription α) → List (Note α) → Prop
  | none : EventNotes react event [] []
  | told {s : Subscription α} {targets : List (Subscription α)} {did notes : List (Note α)}
      (hdid : (react s event).Notes did) (hrest : EventNotes react event targets notes) :
      EventNotes react event (s :: targets) (.told s event :: did ++ notes)

theorem mem_made : s ∈ made notes ↔ .subscribed s ∈ notes := by
  unfold made
  rw [List.mem_filterMap]
  constructor
  · rintro ⟨note, hnote, heq⟩
    cases note <;> cases heq
    exact hnote
  · exact fun h => ⟨_, h, rfl⟩

theorem mem_ended : id ∈ ended notes ↔ .unsubscribed id true ∈ notes := by
  unfold ended
  rw [List.mem_filterMap]
  constructor
  · rintro ⟨note, hnote, heq⟩
    split at heq <;> cases heq
    exact hnote
  · exact fun h => ⟨_, h, rfl⟩

theorem mem_inForce :
    s ∈ inForce notes service ↔ s ∈ made notes ∧ s.service = service ∧ s.id ∉ ended notes := by
  simp [inForce, madeFor, and_assoc, and_comm]

/-! ## Commands one by one -/

/-- `Noted notes n`: these are the notes of some commands, and of what was told in between, and `n` is
the notifier after them. -/
inductive Noted : List (Note α) → Notifier α → Prop
  | start : Noted [] {}
  | obey {notes : List (Note α)} {n : Notifier α} (h : Noted notes n) (c : Command α) :
      Noted (notes ++ [(n.obey c).1]) (n.obey c).2
  | told {notes : List (Note α)} {n : Notifier α} (h : Noted notes n) (s : Subscription α)
      (event : ChangeEvent) : Noted (notes ++ [.told s event]) n

/-- Where one of the notes stands in a list with one more at the end: at the end, or before it. -/
theorem concat_eq_split {last : Note α} (h : notes ++ [last] = front ++ note :: back) :
    back = [] ∧ notes = front ∧ last = note ∨
      ∃ rest, back = rest ++ [last] ∧ notes = front ++ note :: rest := by
  obtain rfl | ⟨rest, other, rfl⟩ := back.eq_nil_or_concat
  · obtain ⟨rfl, hlast⟩ := List.append_inj' h rfl
    exact .inl ⟨rfl, rfl, (List.cons.inj hlast).1⟩
  · rw [List.concat_eq_append, ← List.cons_append, ← List.append_assoc] at h
    obtain ⟨rfl, hlast⟩ := List.append_inj' h rfl
    obtain rfl := (List.cons.inj hlast).1
    exact .inr ⟨rest, List.concat_eq_append, rfl⟩

/-- Every note was written at some moment, by a command or because someone was told of an event. -/
theorem Noted.split (h : Noted (front ++ note :: back) n) :
    ∃ m : Notifier α, Noted front m ∧
      ((∃ c, note = (m.obey c).1) ∨ ∃ s event, note = .told s event) := by
  generalize hnotes : front ++ note :: back = notes at h
  induction h generalizing back with
  | start => simp at hnotes
  | @obey notes n h c ih =>
    obtain ⟨-, rfl, rfl⟩ | ⟨rest, -, rfl⟩ := concat_eq_split hnotes.symm
    · exact ⟨n, h, .inl ⟨c, rfl⟩⟩
    · exact ih rfl
  | @told notes n h s event ih =>
    obtain ⟨-, rfl, rfl⟩ | ⟨rest, -, rfl⟩ := concat_eq_split hnotes.symm
    · exact ⟨n, h, .inr ⟨s, event, rfl⟩⟩
    · exact ih rfl

/-! ## The invariant -/

/-- What the notes say is what the notifier has in its lists. -/
structure Keeps (notes : List (Note α)) (n : Notifier α) : Prop where
  /-- The lists are those of the subscriptions that were made and not ended. -/
  subscribersOf : ∀ service, n.subscribersOf service = inForce notes service
  /-- Numbers were given in order. -/
  ascending : (made notes).Pairwise fun s t => s.id < t.id
  given : ∀ s ∈ made notes, s.id < n.nextId
  /-- What was ended had been made, and was ended once. -/
  ended_made : ∀ id ∈ ended notes, id ∈ (made notes).map (·.id)
  nodup_ended : (ended notes).Nodup

/-- The invariant concerns the lists, the next number, and what was made and ended. -/
theorem Keeps.of_same (h : Keeps notes n) (hmade : made more = made notes)
    (hended : ended more = ended notes) (hnext : m.nextId = n.nextId)
    (hlists : ∀ service, m.subscribersOf service = n.subscribersOf service) : Keeps more m where
  subscribersOf service := by
    rw [hlists, h.subscribersOf, inForce, inForce, madeFor, madeFor, hmade, hended]
  ascending := hmade ▸ h.ascending
  given := by rw [hmade, hnext]; exact h.given
  ended_made := by rw [hmade, hended]; exact h.ended_made
  nodup_ended := hended ▸ h.nodup_ended

theorem Keeps.contains_iff (h : Keeps notes n) :
    n.contains id = true ↔ ∃ s ∈ made notes, s.id = id ∧ id ∉ ended notes := by
  rw [Notifier.contains_iff]
  constructor
  · rintro ⟨s, hs, rfl⟩
    rw [mem_subscriptions, h.subscribersOf, mem_inForce] at hs
    exact ⟨s, hs.1, rfl, hs.2.2⟩
  · rintro ⟨s, hmade, rfl, hended⟩
    refine ⟨s, ?_, rfl⟩
    rw [mem_subscriptions, h.subscribersOf, mem_inForce]
    exact ⟨hmade, rfl, hended⟩

theorem Keeps.subscribe (h : Keeps notes n) (service : String) (callback : α) :
    Keeps (notes ++ [.subscribed ⟨n.nextId, service, callback⟩]) (n.subscribe service callback) where
  subscribersOf other := by
    have hnew : n.nextId ∉ ended notes := fun hmem => by
      obtain ⟨s, hs, hid⟩ := List.mem_map.1 (h.ended_made _ hmem)
      exact Nat.ne_of_lt (h.given s hs) hid
    rw [subscribersOf_subscribe, h.subscribersOf]
    by_cases hs : service = other <;> simp [inForce, madeFor, hs, hnew]
  ascending := by
    rw [made_append, made_subscribed, List.pairwise_append]
    refine ⟨h.ascending, List.pairwise_singleton _ _, fun s hs t ht => ?_⟩
    obtain rfl := List.mem_singleton.1 ht
    exact h.given s hs
  given s hs := by
    rw [made_append, made_subscribed, List.mem_append] at hs
    rcases hs with hold | hnew
    · exact Nat.lt_succ_of_lt (h.given s hold)
    · obtain rfl := List.mem_singleton.1 hnew
      exact Nat.lt_succ_self _
  ended_made id hid := by
    rw [ended_append, ended_subscribed, List.append_nil] at hid
    rw [made_append, List.map_append]
    exact List.mem_append_left _ (h.ended_made id hid)
  nodup_ended := by
    rw [ended_append, ended_subscribed, List.append_nil]
    exact h.nodup_ended

theorem Keeps.unsubscribe (h : Keeps notes n) (id : Nat) :
    Keeps (notes ++ [.unsubscribed id (n.contains id)]) (n.unsubscribe id) := by
  cases hfound : n.contains id with
  | false =>
    -- No list holds the number, so none becomes shorter.
    refine h.of_same (by simp) (by simp) rfl fun service => ?_
    rw [subscribersOf_unsubscribe, List.filter_eq_self]
    intro s hs
    have hnot : ¬s.id = id := fun hid =>
      Bool.eq_false_iff.1 hfound (Notifier.contains_iff.2 ⟨s, (mem_subscribersOf.1 hs).1, hid⟩)
    simpa using hnot
  | true =>
    obtain ⟨s, hs, rfl, hnew⟩ := h.contains_iff.1 hfound
    refine ⟨fun service => ?_, ?_, ?_, fun other hother => ?_, ?_⟩
    · rw [subscribersOf_unsubscribe, h.subscribersOf, inForce, inForce, List.filter_filter, madeFor,
        madeFor, made_append, ended_append, made_unsubscribed, ended_found, List.append_nil]
      refine List.filter_congr fun t _ => ?_
      by_cases ht : t.id = s.id <;> simp [ht]
    · rw [made_append, made_unsubscribed, List.append_nil]
      exact h.ascending
    · rw [made_append, made_unsubscribed, List.append_nil]
      exact h.given
    · rw [made_append, made_unsubscribed, List.append_nil]
      rw [ended_append, ended_found, List.mem_append, List.mem_singleton] at hother
      rcases hother with hold | rfl
      · exact h.ended_made other hold
      · exact List.mem_map_of_mem hs
    · rw [ended_append, ended_found]
      refine List.nodup_append.2 ⟨h.nodup_ended, List.nodup_singleton _, fun a ha b hb hab => ?_⟩
      rw [List.mem_singleton.1 hb] at hab
      exact hnew (hab ▸ ha)

/-- **Every command keeps the invariant.** -/
theorem Keeps.obey (h : Keeps notes n) (c : Command α) :
    Keeps (notes ++ [(n.obey c).1]) (n.obey c).2 := by
  cases c with
  | subscribe service callback => exact h.subscribe service callback
  | unsubscribe id => exact h.unsubscribe id
  | count service => exact h.of_same (by simp [Notifier.obey]) (by simp [Notifier.obey]) rfl fun _ => rfl

theorem Noted.keeps (h : Noted notes n) : Keeps notes n := by
  induction h with
  | start => exact ⟨fun _ => rfl, .nil, nofun, nofun, .nil⟩
  | obey _ c ih => exact ih.obey c
  | told _ s event ih => exact ih.of_same (by simp) (by simp) rfl fun _ => rfl

/-! ## Answers -/

/-- The subscription with a number was made, and nobody has asked to end it since. -/
def Unasked (notes : List (Note α)) (id : Nat) : Prop :=
  ∃ earlier s since, notes = earlier ++ .subscribed s :: since ∧ s.id = id ∧
    ∀ found, .unsubscribed id found ∉ since

/-- Whoever asks to end a subscription that was made leaves it ended, whatever the answer is. -/
theorem Noted.ended_of_asked {earlier since : List (Note α)}
    (h : Noted (earlier ++ .subscribed s :: since) n) (hasked : .unsubscribed s.id found ∈ since) :
    s.id ∈ ended (earlier ++ .subscribed s :: since) := by
  generalize hnotes : earlier ++ .subscribed s :: since = notes at h
  induction h generalizing since with
  | start => simp at hnotes
  | @obey notes n h c ih =>
    obtain ⟨rfl, -, -⟩ | ⟨rest, rfl, rfl⟩ := concat_eq_split hnotes.symm
    · cases hasked
    · rw [ended_append]
      obtain hold | hnew := List.mem_append.1 hasked
      · exact List.mem_append_left _ (ih hold rfl)
      · have hmade : s ∈ made (earlier ++ .subscribed s :: rest) := mem_made.2 (by simp)
        have hnote := List.mem_singleton.1 hnew
        cases c with
        | subscribe => cases hnote
        | count => cases hnote
        | unsubscribe id =>
          obtain ⟨rfl, rfl⟩ := Note.unsubscribed.inj hnote
          by_cases hfound : n.contains s.id = true
          · refine List.mem_append_right _ (mem_ended.2 ?_)
            simp [Notifier.obey, hfound]
          · -- It was not found, so it had been ended before.
            rw [h.keeps.contains_iff] at hfound
            have hended : s.id ∈ ended (earlier ++ .subscribed s :: rest) :=
              Classical.byContradiction fun hnot => hfound ⟨s, hmade, rfl, hnot⟩
            exact List.mem_append_left _ hended
  | @told notes n h t event ih =>
    obtain ⟨rfl, -, -⟩ | ⟨rest, rfl, rfl⟩ := concat_eq_split hnotes.symm
    · cases hasked
    · rw [ended_append]
      obtain hold | hnew := List.mem_append.1 hasked
      · exact List.mem_append_left _ (ih hold rfl)
      · cases List.mem_singleton.1 hnew

/-- What was ended before a subscription was made has another number. -/
theorem Noted.not_ended_before {earlier since : List (Note α)}
    (h : Noted (earlier ++ .subscribed s :: since) n) : s.id ∉ ended earlier := by
  intro hended
  obtain ⟨m, hm, -⟩ := h.split
  obtain ⟨t, ht, hid⟩ := List.mem_map.1 (hm.keeps.ended_made _ hended)
  have hascending := h.keeps.ascending
  rw [made_append, List.pairwise_append] at hascending
  have hlt := hascending.2.2 t ht s (mem_made.2 List.mem_cons_self)
  exact Nat.ne_of_lt hlt hid

/-- **The first one who asks to end a subscription is told that it was there, and nobody else.** -/
theorem Noted.unsubscribed_iff (h : Noted (front ++ .unsubscribed id found :: back) n) :
    found = true ↔ Unasked front id := by
  obtain ⟨m, hm, ⟨c, hnote⟩ | ⟨s, event, hnote⟩⟩ := h.split
  · cases c with
    | subscribe => cases hnote
    | count => cases hnote
    | unsubscribe id' =>
      obtain ⟨rfl, rfl⟩ := Note.unsubscribed.inj hnote
      rw [hm.keeps.contains_iff]
      constructor
      · rintro ⟨s, hs, rfl, hended⟩
        obtain ⟨earlier, since, rfl⟩ := List.append_of_mem (mem_made.1 hs)
        exact ⟨earlier, s, since, rfl, rfl, fun _ hasked => hended (hm.ended_of_asked hasked)⟩
      · rintro ⟨earlier, s, since, rfl, rfl, hunasked⟩
        refine ⟨s, mem_made.2 (by simp), rfl, fun hended => ?_⟩
        rw [mem_ended, List.mem_append, List.mem_cons] at hended
        obtain hearlier | hsame | hsince := hended
        · exact hm.not_ended_before (mem_ended.2 hearlier)
        · cases hsame
        · exact hunasked true hsince
  · cases hnote

/-- Of the subscriptions of a service, those in force and those that were ended make up all. -/
theorem Keeps.length_inForce (h : Keeps notes n) (service : String) :
    (inForce notes service).length + (endedFor notes service).length =
      (madeFor notes service).length := by
  have hnodup : ((madeFor notes service).map (·.id)).Nodup :=
    (List.pairwise_map.2 (h.ascending.imp fun hlt => Nat.ne_of_lt hlt)).sublist
      (List.filter_sublist.map _)
  have hends : ((madeFor notes service).filter fun s => (ended notes).contains s.id).map (·.id)
      |>.Perm (endedFor notes service) := by
    refine (List.perm_ext_iff_of_nodup (hnodup.sublist (List.filter_sublist.map _))
      (h.nodup_ended.sublist List.filter_sublist)).2 fun id => ?_
    simp only [List.mem_map, List.mem_filter, List.contains_eq_mem, decide_eq_true_eq]
    constructor
    · rintro ⟨s, ⟨hs, hended⟩, rfl⟩
      exact ⟨hended, s, hs, rfl⟩
    · rintro ⟨hended, s, hs, rfl⟩
      exact ⟨s, ⟨hs, hended⟩, rfl⟩
  have hsplit := (madeFor notes service).length_eq_length_filter_add fun s =>
    (ended notes).contains s.id
  rw [← hends.length_eq, List.length_map, inForce, hsplit, Nat.add_comm]

/-- **Whoever asks for the number of subscriptions is told how many were made and not ended.** -/
theorem Noted.counted (h : Noted (front ++ .counted service k :: back) n) :
    k + (endedFor front service).length = (madeFor front service).length := by
  obtain ⟨m, hm, ⟨c, hnote⟩ | ⟨s, event, hnote⟩⟩ := h.split
  · cases c with
    | subscribe => cases hnote
    | unsubscribe => cases hnote
    | count service' =>
      obtain ⟨rfl, rfl⟩ := Note.counted.inj hnote
      rw [count, hm.keeps.subscribersOf]
      exact hm.keeps.length_inForce _
  · cases hnote

/-! ## Events -/

theorem answeredBy_obey (n : Notifier α) (c : Command α) : c.AnsweredBy (n.obey c).1 := by
  cases c <;> constructor

theorem notes_run (script : Script α) (n : Notifier α) : script.Notes (script.run n).1 := by
  induction script generalizing n with
  | done => exact .done
  | ask command next ih => exact .ask (answeredBy_obey n command) (ih _ _)

theorem eventNotes_tell (react : Subscription α → ChangeEvent → Script α) (event : ChangeEvent)
    (targets : List (Subscription α)) (n : Notifier α) :
    EventNotes react event targets (tell react event targets n).1 := by
  induction targets generalizing n with
  | nil => exact .none
  | cons s targets ih => exact .told (notes_run _ _) (ih _)

theorem Noted.run (h : Noted notes n) (script : Script α) :
    Noted (notes ++ (script.run n).1) (script.run n).2 := by
  induction script generalizing notes n with
  | done => simpa [Script.run] using h
  | ask command next ih =>
    have hnext := ih (n.obey command).1 (h.obey command)
    simpa [Script.run] using hnext

/-- A script tells nobody. -/
theorem calls_run (script : Script α) (n : Notifier α) : calls (script.run n).1 = [] := by
  induction script generalizing n with
  | done => rfl
  | ask command next ih =>
    have hcommand : calls [(n.obey command).1] = [] := by cases command <;> rfl
    show calls ([(n.obey command).1] ++ ((next _).run _).1) = []
    rw [calls_append, hcommand, ih, List.nil_append]

theorem Noted.tell (h : Noted notes n) (react : Subscription α → ChangeEvent → Script α)
    (event : ChangeEvent) (targets : List (Subscription α)) :
    Noted (notes ++ (tell react event targets n).1) (Notifier.tell react event targets n).2 := by
  induction targets generalizing notes n with
  | nil => simpa [Notifier.tell] using h
  | cons s ss ih =>
    have hrest := ih ((h.told s event).run (react s event))
    simpa [Notifier.tell] using hrest

/-- Whatever subscribers do when they are told, exactly the targets are, in their order. -/
theorem calls_tell (react : Subscription α → ChangeEvent → Script α) (event : ChangeEvent)
    (targets : List (Subscription α)) (n : Notifier α) :
    calls (tell react event targets n).1 = targets.map (·, event) := by
  induction targets generalizing n with
  | nil => rfl
  | cons s ss ih =>
    show calls ([.told s event] ++ ((react s event).run n).1 ++ (tell react event ss _).1) = _
    rw [calls_append, calls_append, calls_run, ih]
    rfl

/-! ## Runs -/

/-- A step of a run: anyone asks for something, or an event is published, and those who are told of it
do what `react` says. -/
inductive Step (α : Type) where
  | command (c : Command α)
  | publish (event : ChangeEvent) (react : Subscription α → ChangeEvent → Script α)

/-- A notifier and all that was noted of it. -/
structure History (α : Type) where
  notes : List (Note α) := []
  notifier : Notifier α := {}

/-- The history after a step. -/
def History.step (h : History α) : Step α → History α
  | .command c => ⟨h.notes ++ [(h.notifier.obey c).1], (h.notifier.obey c).2⟩
  | .publish event react =>
    let (_, notes, notifier) := h.notifier.publish react event
    ⟨h.notes ++ notes, notifier⟩

/-- The history of a run from the beginning. -/
def History.after (steps : List (Step α)) : History α :=
  steps.foldl step {}

theorem noted_after (steps : List (Step α)) :
    Noted (History.after steps).notes (History.after steps).notifier := by
  refine List.foldlRecOn (motive := fun h : History α => Noted h.notes h.notifier) steps
    History.step .start fun h hnoted step _ => ?_
  cases step with
  | command c => exact hnoted.obey c
  | publish event react => exact hnoted.tell react event _

/-- What a notifier promises to those who use it, whatever has been done to it. -/
structure Delivers (h : History α) : Prop where
  /-- A command leaves one note, its answer. -/
  commanded : ∀ c, ∃ note, Command.AnsweredBy c note ∧ (h.step (.command c)).notes = h.notes ++ [note]
  /-- An event leaves the notes of those who are subscribed to its service when it is published. -/
  published : ∀ event react,
    EventNotes react event (inForce h.notes event.service) (h.notifier.publish react event).2.1 ∧
    (h.step (.publish event react)).notes = h.notes ++ (h.notifier.publish react event).2.1
  /-- No two subscriptions that were made have the same number. -/
  numbered : ((made h.notes).map (·.id)).Nodup
  /-- An event goes to those who are subscribed to its service when it is published, to each of them
  once and in the order in which they subscribed. -/
  calls : ∀ event react, Notifier.calls (h.notifier.publish react event).2.1 =
    (inForce h.notes event.service).map (·, event)
  once : ∀ event react, (Notifier.calls (h.notifier.publish react event).2.1).Nodup
  number : ∀ event react, (h.notifier.publish react event).1 =
    (Notifier.calls (h.notifier.publish react event).2.1).length
  /-- A subscription that is made while an event is published is not told of that event; every one that
  was made and not ended is told of the next. -/
  later : ∀ event react s, .subscribed s ∈ (h.notifier.publish react event).2.1 →
    (s, event) ∉ Notifier.calls (h.notifier.publish react event).2.1
  next : ∀ s, .subscribed s ∈ h.notes → .unsubscribed s.id true ∉ h.notes →
    ∀ event react, event.service = s.service →
      (s, event) ∈ Notifier.calls (h.notifier.publish react event).2.1
  /-- A subscription that was ended is told of nothing. -/
  gone : ∀ id, .unsubscribed id true ∈ h.notes → ∀ event react,
    ∀ call ∈ Notifier.calls (h.notifier.publish react event).2.1, call.1.id ≠ id
  /-- Whoever asks to end a subscription is told that it was there exactly if it was made and nobody
  has asked before. -/
  unsubscribed : ∀ before id found after, h.notes = before ++ .unsubscribed id found :: after →
    (found = true ↔ Unasked before id)
  found_once : (ended h.notes).Nodup
  /-- The number of subscriptions of a service is that of those made less that of those ended. -/
  counted : ∀ before service k after, h.notes = before ++ .counted service k :: after →
    k + (endedFor before service).length = (madeFor before service).length

/-- **Events reach the subscribers of the moment**, whatever subscribers do when they are told. Every
command is answered, and every answer is the one that the notes so far demand, also those given in the
middle of an event. -/
theorem delivers_after (steps : List (Step α)) : Delivers (History.after steps) := by
  have hnoted := noted_after steps
  generalize History.after steps = h at hnoted
  have hkeeps := hnoted.keeps
  have hcalls : ∀ event react, calls (h.notifier.publish react event).2.1 =
      (inForce h.notes event.service).map (·, event) := fun event react => by
    rw [← hkeeps.subscribersOf]
    exact calls_tell react event _ _
  have hmem : ∀ event react s, (s, event) ∈ calls (h.notifier.publish react event).2.1 ↔
      s ∈ inForce h.notes event.service := fun event react s => by
    rw [hcalls]
    simp
  refine ⟨fun c => ⟨_, answeredBy_obey _ c, rfl⟩, fun event react => ⟨?_, rfl⟩, ?_, hcalls,
    fun event react => ?_, fun event react => ?_, fun event react s hs htold => ?_,
    fun s hmade hended event react hservice => ?_, fun id hended event react call hcall => ?_,
    fun before id found after hnotes => ?_, hkeeps.nodup_ended,
    fun before service k after hnotes => ?_⟩
  · rw [← hkeeps.subscribersOf]
    exact eventNotes_tell react event _ _
  · exact List.pairwise_map.2 (hkeeps.ascending.imp fun hlt => Nat.ne_of_lt hlt)
  · rw [hcalls, ← hkeeps.subscribersOf]
    exact (h.notifier.nodup_subscribersOf _).map fun a b hab => (Prod.mk.inj hab).1
  · rw [hcalls, List.length_map, ← hkeeps.subscribersOf]
    rfl
  · -- Its number is above those of all who are told.
    have hascending := (hnoted.tell react event (h.notifier.subscribersOf event.service)).keeps.ascending
    rw [made_append, List.pairwise_append] at hascending
    have hold := (mem_inForce.1 ((hmem event react s).1 htold)).1
    exact Nat.lt_irrefl _ (hascending.2.2 s hold s (mem_made.2 hs))
  · rw [hmem, mem_inForce, mem_made, mem_ended]
    exact ⟨hmade, hservice.symm, hended⟩
  · rw [hcalls] at hcall
    obtain ⟨s, hs, rfl⟩ := List.mem_map.1 hcall
    rintro rfl
    exact (mem_inForce.1 hs).2.2 (mem_ended.2 hended)
  · exact (hnotes ▸ hnoted : Noted _ _).unsubscribed_iff
  · exact (hnotes ▸ hnoted : Noted _ _).counted

end Notifier

end TrafficGateway
