import TrafficGateway.Balance.Split
import TrafficGateway.Proofs.Balance.Cycle
import TrafficGateway.Proofs.Outcome

/-!
# The sides of a split do not disturb each other

Writes move the selector of the masters. Reads move that of the other nodes, if there are any, and else
that of the masters. Which of the two it is depends on the nodes alone and is the same for all reads, so
the picks of each side are those of one selector that gets the calls of this side
(`ReadWriteSplit.picksFor_eq`), or, without other nodes, all picks together are those of the selector of
the masters (`ReadWriteSplit.answers_eq`).

## Main definitions

* `ReadWriteSplit.Call`: a call for writes or for reads.
* `ReadWriteSplit.IsNew`: a split whose selectors are as they were built.
* `ReadWriteSplit.serving`: the nodes that serve a side.
* `ReadWriteSplit.picksFor`: the picks for some calls, those of one side.
-/

namespace TrafficGateway

variable {α : Type}

/-- A selector over no nodes has nothing to fail with but that. -/
theorem Selector.Over.eq_failing {s : Selector α} (h : s.Over []) : s = .failing .noNodes := by
  cases s with
  | failing e => rw [h.1]
  | single node => cases h
  | roundRobin r => exact absurd rfl h.2
  | weighted w =>
    have hlt := w.index_lt
    rw [show w.nodes = [] from h] at hlt
    cases hlt
  | hashed k => exact absurd rfl h.2

namespace ReadWriteSplit

/-- What a call is for. -/
inductive Side where
  | write
  | read
  deriving DecidableEq

/-- A call with an optional key. -/
structure Call where
  side : Side
  key : Option String

/-- The pick for a call, and the split after it. -/
def answer (s : ReadWriteSplit α) (call : Call) : Except BackendError (Node α) × ReadWriteSplit α :=
  match call.side with
  | .write => s.selectWrite call.key
  | .read => s.selectRead call.key

/-- The picks for some calls, one after the other. -/
def answers (s : ReadWriteSplit α) : List Call → List (Except BackendError (Node α))
  | [] => []
  | call :: calls => (s.answer call).1 :: answers (s.answer call).2 calls

/-- The keys of the calls of one side. -/
def keysFor (side : Side) (calls : List Call) : List (Option String) :=
  (calls.filter fun call => call.side = side).map (·.key)

/-- The picks for some calls, those of one side. -/
def picksFor (side : Side) (s : ReadWriteSplit α) (calls : List Call) :
    List (Except BackendError (Node α)) :=
  ((calls.zip (s.answers calls)).filter fun e => e.1.side = side).map Prod.snd

/-- A split of nodes to which no call has been made. What round robin starts from is drawn for each
side. -/
structure IsNew (kind : SelectorKind) (nodes : List (Node α)) (isMaster : Node α → Bool)
    (s : ReadWriteSplit α) : Prop where
  masters : ∃ f : SelectorFactory, f.build kind (nodes.filter isMaster) = .ok s.masters
  replicas : ∃ f : SelectorFactory,
    f.build kind (nodes.filter fun n => !isMaster n) = .ok s.replicas

/-- The nodes that serve a side: the masters for writes, and for reads the others, or the masters again
if there are no others. -/
def serving (nodes : List (Node α)) (isMaster : Node α → Bool) : Side → List (Node α)
  | .write => nodes.filter isMaster
  | .read =>
    match nodes.filter fun n => !isMaster n with
    | [] => nodes.filter isMaster
    | others => others

variable {s : ReadWriteSplit α} {kind : SelectorKind} {nodes : List (Node α)}
  {isMaster : Node α → Bool}

/-- A split that has just been built is new. -/
theorem isNew_of_build {f : SelectorFactory} (h : build f kind nodes isMaster = .ok s) :
    IsNew kind nodes isMaster s := by
  obtain ⟨masters, hmasters, h⟩ := bind_eq_ok_iff.1 h
  obtain ⟨replicas, hreplicas, h⟩ := bind_eq_ok_iff.1 h
  obtain rfl := Except.ok.inj h
  exact ⟨⟨f, hmasters⟩, f, hreplicas⟩

/-! ## One call -/

/-- The selectors of a split are over their nodes, wherever they stand. -/
structure Over (masters replicas : List (Node α)) (s : ReadWriteSplit α) : Prop where
  masters : s.masters.Over masters
  replicas : s.replicas.Over replicas

theorem IsNew.over (h : IsNew kind nodes isMaster s) :
    s.Over (nodes.filter isMaster) (nodes.filter fun n => !isMaster n) := by
  obtain ⟨⟨_, hmasters⟩, _, hreplicas⟩ := h
  exact ⟨SelectorFactory.over_of_build hmasters, SelectorFactory.over_of_build hreplicas⟩

variable {masters replicas : List (Node α)}

/-- A write moves the selector of the masters. -/
theorem answer_write (s : ReadWriteSplit α) (key : Option String) :
    s.answer ⟨.write, key⟩ =
      ((s.masters.select key).1, { s with masters := (s.masters.select key).2 }) :=
  rfl

/-- A read moves the selector of the other nodes, if there are any. -/
theorem Over.answer_read (h : s.Over masters replicas) (hne : replicas ≠ []) (key : Option String) :
    s.answer ⟨.read, key⟩ =
      ((s.replicas.select key).1, { s with replicas := (s.replicas.select key).2 }) := by
  obtain ⟨node, -, hnode⟩ := (h.replicas.isPick key).exists_ok hne
  simp only [answer, selectRead, hnode]

/-- Without other nodes a read is a write. -/
theorem Over.answer_read_eq_write (h : s.Over masters []) (key : Option String) :
    s.answer ⟨.read, key⟩ = s.answer ⟨.write, key⟩ := by
  obtain ⟨masters, replicas⟩ := s
  obtain rfl : replicas = .failing .noNodes := h.replicas.eq_failing
  rfl

/-- A call leaves the selectors over their nodes. -/
theorem Over.answer (h : s.Over masters replicas) (call : Call) :
    (s.answer call).2.Over masters replicas := by
  obtain ⟨side, key⟩ := call
  have hwrite : (s.answer ⟨.write, key⟩).2.Over masters replicas :=
    ⟨h.masters.select key, h.replicas⟩
  cases side with
  | write => exact hwrite
  | read =>
    by_cases hne : replicas = []
    · subst hne
      rwa [h.answer_read_eq_write]
    · rw [h.answer_read hne]
      exact ⟨h.masters, h.replicas.select key⟩

/-- A pick is one among the nodes that serve its side. -/
theorem Over.isPick (h : s.Over (nodes.filter isMaster) (nodes.filter fun n => !isMaster n))
    (call : Call) : IsPick (serving nodes isMaster call.side) (s.answer call).1 := by
  obtain ⟨side, key⟩ := call
  cases side with
  | write => exact h.masters.isPick key
  | read =>
    simp only [serving]
    split
    · next hnone =>
      rw [hnone] at h
      rw [h.answer_read_eq_write]
      exact h.masters.isPick key
    · next hne =>
      rw [h.answer_read hne]
      exact h.replicas.isPick key

/-! ## Runs of calls -/

/-- Every pick of a run is one among the nodes that serve its side. -/
theorem Over.isPick_of_mem
    (h : s.Over (nodes.filter isMaster) (nodes.filter fun n => !isMaster n)) {calls : List Call}
    {e : Call × Except BackendError (Node α)} (he : e ∈ calls.zip (s.answers calls)) :
    IsPick (serving nodes isMaster e.1.side) e.2 := by
  induction calls generalizing s with
  | nil => cases he
  | cons call calls ih =>
    rw [answers, List.zip_cons_cons, List.mem_cons] at he
    rcases he with rfl | he
    · exact h.isPick call
    · exact ih (h.answer call) he

theorem picksFor_cons (side : Side) (s : ReadWriteSplit α) (call : Call) (calls : List Call) :
    picksFor side s (call :: calls) =
      if call.side = side then (s.answer call).1 :: picksFor side (s.answer call).2 calls
      else picksFor side (s.answer call).2 calls := by
  by_cases h : call.side = side <;> simp [picksFor, answers, h]

theorem keysFor_cons (side : Side) (call : Call) (calls : List Call) :
    keysFor side (call :: calls) =
      if call.side = side then call.key :: keysFor side calls else keysFor side calls := by
  by_cases h : call.side = side <;> simp [keysFor, h]

/-- **The picks of one side are those of its selector**, whatever the other side picks in between. -/
theorem picksFor_eq (h : s.Over masters replicas) (hne : replicas ≠ []) (calls : List Call) :
    picksFor .write s calls = s.masters.picks (keysFor .write calls) ∧
      picksFor .read s calls = s.replicas.picks (keysFor .read calls) := by
  induction calls generalizing s with
  | nil => exact ⟨rfl, rfl⟩
  | cons call calls ih =>
    obtain ⟨hwrites, hreads⟩ := ih (h.answer call)
    simp only [picksFor_cons, keysFor_cons, hwrites, hreads]
    obtain ⟨side, key⟩ := call
    cases side with
    | write =>
      rw [answer_write]
      exact ⟨rfl, rfl⟩
    | read =>
      rw [h.answer_read hne]
      exact ⟨rfl, rfl⟩

/-- Without other nodes, all picks are those of the selector of the masters. -/
theorem answers_eq (h : s.Over masters []) (calls : List Call) :
    s.answers calls = s.masters.picks (calls.map (·.key)) := by
  induction calls generalizing s with
  | nil => rfl
  | cons call calls ih =>
    have hwrite : s.answer call = s.answer ⟨.write, call.key⟩ := by
      obtain ⟨side, key⟩ := call
      cases side with
      | write => rfl
      | read => exact h.answer_read_eq_write key
    rw [answers, ih (h.answer call), hwrite]
    rfl

/-- **Reads and writes keep apart.** Let calls for reads and writes be made, in any order, to a split of
nodes. A write is served by a master, a read by another node, or by a master if all nodes are masters, and
a call fails, because there are no nodes, exactly if there is no node that may serve it. If there are other
nodes, then the picks for the writes are what the selector of the masters picks when it gets the writes
alone, and likewise for reads, so they depend on the keys of their own side only. If there are none, all
picks together are what the selector of the masters picks. -/
theorem sides_keep_apart (kind : SelectorKind) (nodes : List (Node α)) (isMaster : Node α → Bool) :
    let others := nodes.filter fun n => !isMaster n
    (∀ f s, build f kind nodes isMaster = .ok s → IsNew kind nodes isMaster s) ∧
    ∀ s, IsNew kind nodes isMaster s →
      (∀ calls : List Call, ∀ e ∈ calls.zip (s.answers calls),
        (∀ node, e.2 = .ok node → node ∈ serving nodes isMaster e.1.side) ∧
        ∀ error, e.2 = .error error ↔ error = .noNodes ∧ serving nodes isMaster e.1.side = []) ∧
      (others ≠ [] → ∀ calls,
        picksFor .write s calls = s.masters.picks (keysFor .write calls) ∧
        picksFor .read s calls = s.replicas.picks (keysFor .read calls)) ∧
      (others ≠ [] → ∀ side calls calls', keysFor side calls = keysFor side calls' →
        picksFor side s calls = picksFor side s calls') ∧
      (others = [] → ∀ calls, s.answers calls = s.masters.picks (calls.map (·.key))) := by
  intro others
  refine ⟨fun f s => isNew_of_build, fun s hnew => ⟨fun calls e he => ?_, fun hne calls => ?_,
    fun hne side calls calls' hkeys => ?_, fun hnone calls => ?_⟩⟩
  · have hpick := hnew.over.isPick_of_mem he
    obtain ⟨call, pick⟩ := e
    cases pick with
    | ok node =>
      refine ⟨fun _ h => Except.ok.inj h ▸ hpick, fun _ => ⟨nofun, fun ⟨_, hempty⟩ => ?_⟩⟩
      have hmem : node ∈ serving nodes isMaster call.side := hpick
      rw [show serving nodes isMaster call.side = [] from hempty] at hmem
      cases hmem
    | error e =>
      obtain ⟨rfl, hempty⟩ := hpick
      exact ⟨nofun, fun error => ⟨fun h => ⟨(Except.error.inj h).symm, hempty⟩, fun h => h.1 ▸ rfl⟩⟩
  · exact picksFor_eq hnew.over hne calls
  · obtain ⟨hwrites, hreads⟩ := picksFor_eq hnew.over hne calls
    obtain ⟨hwrites', hreads'⟩ := picksFor_eq hnew.over hne calls'
    cases side with
    | write => rw [hwrites, hwrites', hkeys]
    | read => rw [hreads, hreads', hkeys]
  · have hover := hnew.over
    rw [show (nodes.filter fun n => !isMaster n) = [] from hnone] at hover
    exact answers_eq hover calls

/-- Two masters of weights five and one beside two other nodes: the picks for three writes are the same
whatever is read in between. Were all four masters, each call of either kind would get the next pick. -/
theorem sides_keep_apart_two_masters :
    let nodes : List (Node String) :=
      [⟨"a", "master", 5⟩, ⟨"b", "replica", 1⟩, ⟨"c", "replica", 2⟩, ⟨"d", "master", 1⟩]
    let isMaster : Node String → Bool := fun n => n.data == "master"
    let writes : List Call := [⟨.write, none⟩, ⟨.write, none⟩, ⟨.write, none⟩]
    (∃ s, build {} .weightedRoundRobin nodes isMaster = .ok s ∧
      (nodes.filter fun n => !isMaster n) ≠ [] ∧
      ∀ calls, keysFor .write calls = [none, none, none] →
        picksFor .write s calls = picksFor .write s writes) ∧
    ∃ s, build {} .weightedRoundRobin nodes (fun _ => true) = .ok s ∧
      (nodes.filter fun _ => !true) = [] ∧
      ∀ calls, s.answers calls = s.masters.picks (calls.map (·.key)) := by
  intro nodes isMaster writes
  have hbuild : ∀ p : Node String → Bool, ∃ s, build {} .weightedRoundRobin nodes p = .ok s := fun p => by
    have hpos : ∀ q : Node String → Bool, ∀ n ∈ nodes.filter q, 0 < n.weight := fun q n hn =>
      (by decide : ∀ n ∈ nodes, 0 < n.weight) n (List.mem_of_mem_filter hn)
    obtain ⟨masters, hmasters⟩ := SelectorFactory.build_ok {} fun _ => hpos p
    obtain ⟨replicas, hreplicas⟩ := SelectorFactory.build_ok {} fun _ => hpos fun n => !p n
    exact ⟨⟨masters, replicas⟩, by rw [build, hmasters, ok_bind, hreplicas, ok_bind]; rfl⟩
  refine ⟨?_, ?_⟩
  · obtain ⟨s, hs⟩ := hbuild isMaster
    obtain ⟨hnew, happart⟩ := sides_keep_apart .weightedRoundRobin nodes isMaster
    obtain ⟨-, -, hsame, -⟩ := happart s (hnew _ s hs)
    have hne : (nodes.filter fun n => !isMaster n) ≠ [] := by decide
    exact ⟨s, hs, hne, fun calls hkeys => hsame hne .write calls writes hkeys⟩
  · obtain ⟨s, hs⟩ := hbuild fun _ => true
    obtain ⟨hnew, happart⟩ := sides_keep_apart .weightedRoundRobin nodes fun _ => true
    obtain ⟨-, -, -, hone⟩ := happart s (hnew _ s hs)
    have hnone : (nodes.filter fun _ => !true) = [] := by decide
    exact ⟨s, hs, hnone, hone hnone⟩

end ReadWriteSplit

end TrafficGateway
