import TrafficGateway.Stream.Channel

/-!
# What the reader of a channel finds

A writer sends frames into a channel, closes it or aborts it, and a reader that stays takes items out,
in any order of these steps. The reader finds the frames that were put in, each once and in order, and
behind them how the stream ended: a clean end after `close`, and an error after `abort`.

The error needs a place in the channel like any frame. When the reader is a full channel behind, the
error is dropped and the reader finds a clean end. `found_readOn` says what a reader finds in every
case, and that the promise of an honest ending is kept exactly if there was room for the error.

## Main definitions

* `ChannelStep`, `ChannelHistory`: the steps of both ends, and what is known of a run.
* `StreamEnding`: how a stream ended, and how far the reader was behind.
* `ChannelHistory.script`: what a reader finds from the first frame on.
* `ChannelHistory.Intact`: the reader's items and those in the channel make up the script.
-/

namespace TrafficGateway

/-- A step of the writer or of the reader. -/
inductive ChannelStep where
  | send (frame : Frame)
  | close
  | abort (error : ForwardError)
  | receive
  deriving DecidableEq, Repr

/-- How the writer has ended a stream. An abort comes with the number of frames that the reader had
not read by then. -/
inductive StreamEnding where
  | closed
  | aborted (error : ForwardError) (unread : Nat)
  deriving DecidableEq, Repr

namespace StreamEnding

/-- What a reader should find behind the frames. -/
def promised : StreamEnding → List ChannelItem
  | closed => []
  | aborted error _ => [.failure error.message]

/-- Was there room for what a reader should find? -/
def Fits : StreamEnding → Prop
  | closed => True
  | aborted _ unread => unread < FrameChannel.capacity

instance : (e : StreamEnding) → Decidable e.Fits
  | closed => isTrue trivial
  | aborted _ unread => inferInstanceAs (Decidable (unread < FrameChannel.capacity))

/-- What a reader does find behind the frames. -/
def kept (e : StreamEnding) : List ChannelItem :=
  if e.Fits then e.promised else []

end StreamEnding

/-- A channel, the frames that were put into it, what its reader has found when it did not have to
wait, and how the stream ended first. -/
structure ChannelHistory where
  channel : FrameChannel := {}
  put : List Frame := []
  found : List Received := []
  ending : Option StreamEnding := none
  deriving DecidableEq, Repr

namespace ChannelHistory

/-- How many of the frames the reader has not found yet. -/
def unread (h : ChannelHistory) : Nat :=
  h.put.length - h.found.length

/-- Notes the ending of the stream, unless it has ended before, and what the channel is then. -/
def endWith (h : ChannelHistory) (e : StreamEnding) (channel : FrameChannel) : ChannelHistory :=
  { h with channel, ending := h.ending.or (some e) }

/-- The history after a step. A frame that has to wait or is refused was not put into the channel. -/
def step (h : ChannelHistory) : ChannelStep → ChannelHistory
  | .send frame =>
    match h.channel.send frame with
    | (.taken, channel) => { h with channel, put := h.put ++ [frame] }
    | (.takenLast, channel) => { h with channel, put := h.put ++ [frame] }
    | (_, channel) => { h with channel }
  | .close => h.endWith .closed h.channel.close
  | .abort e => h.endWith (.aborted e h.unread) (h.channel.abort e)
  | .receive =>
    match h.channel.receive with
    | (.pending, channel) => { h with channel }
    | (answer, channel) => { h with channel, found := h.found ++ [answer] }

/-- The history after some steps. -/
def after (h : ChannelHistory) (steps : List ChannelStep) : ChannelHistory :=
  steps.foldl step h

/-- The history after the reader has read on for some steps. -/
def readOn (h : ChannelHistory) (n : Nat) : ChannelHistory :=
  h.after (List.replicate n .receive)

/-- What there is to find from the first frame on, if this is behind the frames at an ending. The
clean end is found as often as the reader asks for it. -/
def script (h : ChannelHistory) (behind : StreamEnding → List ChannelItem) (ends : Nat) :
    List Received :=
  h.put.map (.item ∘ .frame) ++
    match h.ending with
    | none => []
    | some e => (behind e).map .item ++ List.replicate ends .ended

/-- The first of what there is to find. -/
def opening (h : ChannelHistory) (behind : StreamEnding → List ChannelItem) (n : Nat) :
    List Received :=
  (h.script behind n).take n

/-- The invariant of a channel whose reader stays. -/
structure Intact (h : ChannelHistory) : Prop where
  /-- The reader is there. -/
  reading : h.channel.reading = true
  /-- The writer is there until the stream ends. -/
  writing : h.channel.writing = h.ending.isNone
  /-- What was found and what is in the channel make up the script. -/
  complete : ∃ ends ≤ h.found.length,
    h.found ++ h.channel.items.map .item = h.script StreamEnding.kept ends

variable {h : ChannelHistory}

/-! ## The script -/

theorem script_of_open (behind : StreamEnding → List ChannelItem) (ends : Nat)
    (hopen : h.ending = none) : h.script behind ends = h.put.map (.item ∘ .frame) := by
  simp [script, hopen]

theorem script_of_ended (behind : StreamEnding → List ChannelItem) (ends : Nat) {e : StreamEnding}
    (he : h.ending = some e) :
    h.script behind ends =
      h.put.map (.item ∘ .frame) ++ ((behind e).map .item ++ List.replicate ends .ended) := by
  simp [script, he]

/-- To ask for more clean ends changes nothing about what is found first. -/
theorem script_prefix (behind : StreamEnding → List ChannelItem) {m n : Nat} (hmn : m ≤ n) :
    h.script behind m <+: h.script behind n := by
  cases he : h.ending with
  | none =>
    have hsame : h.script behind m = h.script behind n := by
      rw [script_of_open behind m he, script_of_open behind n he]
    exact hsame ▸ List.prefix_rfl
  | some e =>
    rw [script_of_ended behind m he, script_of_ended behind n he]
    refine (List.prefix_append_right_inj _).2 ((List.prefix_append_right_inj _).2 ?_)
    exact ⟨List.replicate (n - m) .ended, by simp [hmn]⟩

/-! ## The invariant holds in every run -/

theorem intact_init : ({} : ChannelHistory).Intact :=
  ⟨rfl, rfl, 0, by simp, by simp [script]⟩

/-- As long as the stream is open, the reader has found nothing but frames. -/
theorem Intact.complete_of_open (hi : h.Intact) (hopen : h.ending = none) :
    h.found ++ h.channel.items.map .item = h.put.map (.item ∘ .frame) := by
  obtain ⟨ends, -, heq⟩ := hi.complete
  rwa [script_of_open _ _ hopen] at heq

/-- What the reader has not found yet is in the channel. -/
theorem Intact.unread_eq (hi : h.Intact) (hopen : h.ending = none) :
    h.unread = h.channel.items.length := by
  have hlen := congrArg List.length (hi.complete_of_open hopen)
  simp only [List.length_append, List.length_map] at hlen
  unfold unread
  omega

/-- A frame is put into the channel if the stream is open and there is room for it; otherwise nothing
changes. -/
theorem step_send (frame : Frame) :
    h.step (.send frame) =
      if h.channel.writing ∧ h.channel.reading ∧ h.channel.isFull = false then
        { h with channel := h.channel.push (.frame frame), put := h.put ++ [frame] }
      else h := by
  cases hw : h.channel.writing with
  | false => simp [step, FrameChannel.send, hw]
  | true =>
    cases hr : h.channel.reading with
    | false => simp [step, FrameChannel.send, hw, hr]
    | true =>
      cases hfull : h.channel.isFull with
      | true => simp [step, FrameChannel.send, hw, hr, hfull]
      | false =>
        -- The frame is in the channel, whether or not it has filled it.
        cases hlast : (h.channel.push (.frame frame)).isFull <;>
          simp [step, FrameChannel.send, hw, hr, hfull, hlast]

theorem Intact.send (hi : h.Intact) (frame : Frame) : (h.step (.send frame)).Intact := by
  rw [step_send]
  by_cases hroom : h.channel.writing ∧ h.channel.reading ∧ h.channel.isFull = false
  · rw [if_pos hroom]
    have hopen : h.ending = none := by simpa [hroom.1] using hi.writing
    refine ⟨hi.reading, hi.writing, 0, Nat.zero_le _, ?_⟩
    refine Eq.trans ?_ (script_of_open _ _ ?_).symm
    rotate_left
    · exact hopen
    show h.found ++ (h.channel.items ++ [ChannelItem.frame frame]).map .item =
      (h.put ++ [frame]).map (.item ∘ .frame)
    rw [List.map_append, ← List.append_assoc, hi.complete_of_open hopen, List.map_append]
    rfl
  · rw [if_neg hroom]
    exact hi

/-- An ending that puts what is kept of it into the channel. -/
theorem Intact.endWith (hi : h.Intact) (hopen : h.ending = none) (e : StreamEnding)
    {channel : FrameChannel} (hreading : channel.reading = true) (hwriting : channel.writing = false)
    (hitems : channel.items = h.channel.items ++ e.kept) : (h.endWith e channel).Intact := by
  have he : (h.endWith e channel).ending = some e := by simp [ChannelHistory.endWith, hopen]
  refine ⟨hreading, ?_, 0, Nat.zero_le _, ?_⟩
  · rw [he]
    exact hwriting
  · rw [script_of_ended _ _ he]
    show h.found ++ channel.items.map .item = h.put.map (.item ∘ .frame) ++ (e.kept.map .item ++ [])
    rw [hitems, List.map_append, ← List.append_assoc, hi.complete_of_open hopen, List.append_nil]

/-- Once the stream has ended, nothing changes when it is ended again. -/
theorem Intact.endWith_close (hi : h.Intact) (hended : h.ending ≠ none) (e : StreamEnding) :
    h.endWith e h.channel.close = h := by
  obtain ⟨first, hfirst⟩ := Option.ne_none_iff_exists'.1 hended
  have hwriting : h.channel.writing = false := by rw [hi.writing, hfirst]; rfl
  have hchannel : h.channel.close = h.channel := by
    unfold FrameChannel.close
    rw [← hwriting]
  have hending : h.ending.or (some e) = h.ending := by rw [hfirst]; rfl
  unfold ChannelHistory.endWith
  rw [hchannel, hending]

theorem Intact.close (hi : h.Intact) : (h.step .close).Intact := by
  show (h.endWith .closed h.channel.close).Intact
  by_cases hopen : h.ending = none
  · refine hi.endWith hopen .closed hi.reading rfl ?_
    show h.channel.items = h.channel.items ++ []
    rw [List.append_nil]
  · rwa [hi.endWith_close hopen]

/-- The error has a place in the channel exactly if the reader is less than a full channel behind. -/
theorem Intact.abort_items (hi : h.Intact) (hopen : h.ending = none) (error : ForwardError) :
    (h.channel.abort error).items =
      h.channel.items ++ (StreamEnding.aborted error h.unread).kept := by
  have hwriting : h.channel.writing = true := by rw [hi.writing, hopen]; rfl
  have hunread := hi.unread_eq hopen
  by_cases hroom : h.unread < FrameChannel.capacity
  · have hfull : h.channel.isFull = false := by
      simpa [FrameChannel.isFull, ← hunread] using hroom
    simp [FrameChannel.abort, hwriting, hi.reading, hfull, FrameChannel.push, FrameChannel.close,
      StreamEnding.kept, StreamEnding.Fits, StreamEnding.promised, hroom]
  · have hfull : h.channel.isFull = true := by
      simpa [FrameChannel.isFull, ← hunread] using hroom
    simp [FrameChannel.abort, hfull, FrameChannel.close, StreamEnding.kept, StreamEnding.Fits, hroom]

theorem Intact.abort (hi : h.Intact) (error : ForwardError) : (h.step (.abort error)).Intact := by
  show (h.endWith (.aborted error h.unread) (h.channel.abort error)).Intact
  by_cases hopen : h.ending = none
  · refine hi.endWith hopen _ ?_ ?_ (hi.abort_items hopen error)
    · unfold FrameChannel.abort
      split <;> exact hi.reading
    · unfold FrameChannel.abort
      split <;> rfl
  · -- The writer has gone, so an abort does no more than a close.
    obtain ⟨first, hfirst⟩ := Option.ne_none_iff_exists'.1 hopen
    have hwriting : h.channel.writing = false := by rw [hi.writing, hfirst]; rfl
    have hclose : h.channel.abort error = h.channel.close := by
      simp [FrameChannel.abort, hwriting]
    rw [hclose, hi.endWith_close hopen]
    exact hi

/-- A reader that stays takes the first item out. -/
theorem step_receive_item (hreading : h.channel.reading = true) {item : ChannelItem}
    {items : List ChannelItem} (hitems : h.channel.items = item :: items) :
    h.step .receive =
      { h with channel := { h.channel with items }, found := h.found ++ [.item item] } := by
  simp [step, FrameChannel.receive, hreading, hitems]

/-- Without an item it has to wait, as long as the stream is open. -/
theorem step_receive_open (hreading : h.channel.reading = true) (hitems : h.channel.items = [])
    (hwriting : h.channel.writing = true) : h.step .receive = h := by
  simp [step, FrameChannel.receive, hreading, hitems, hwriting]

/-- Without an item it finds a clean end, once the stream has ended. -/
theorem step_receive_ended (hreading : h.channel.reading = true) (hitems : h.channel.items = [])
    (hwriting : h.channel.writing = false) :
    h.step .receive = { h with found := h.found ++ [.ended] } := by
  simp [step, FrameChannel.receive, hreading, hitems, hwriting]

theorem Intact.receive (hi : h.Intact) : (h.step .receive).Intact := by
  obtain ⟨ends, hle, heq⟩ := hi.complete
  cases hitems : h.channel.items with
  | cons item items =>
    -- The item moves from the channel to what was found.
    rw [step_receive_item hi.reading hitems]
    refine ⟨hi.reading, hi.writing, ends, ?_, ?_⟩
    · show ends ≤ (h.found ++ [_]).length
      rw [List.length_append]
      omega
    · rw [hitems] at heq
      show (h.found ++ [.item item]) ++ items.map .item = h.script StreamEnding.kept ends
      rw [← heq, List.append_assoc]
      rfl
  | nil =>
    cases hwriting : h.channel.writing with
    | true =>
      rwa [step_receive_open hi.reading hitems hwriting]
    | false =>
      -- One more clean end is found.
      rw [step_receive_ended hi.reading hitems hwriting]
      obtain ⟨e, he⟩ := Option.isSome_iff_exists.1 (by simpa [hwriting] using hi.writing)
      refine ⟨hi.reading, hi.writing, ends + 1, by simp; omega, ?_⟩
      rw [hitems, script_of_ended _ _ he, List.map_nil, List.append_nil] at heq
      show (h.found ++ [.ended]) ++ h.channel.items.map .item = h.script StreamEnding.kept (ends + 1)
      rw [script_of_ended _ _ he, hitems, heq, List.replicate_succ']
      simp only [List.append_assoc, List.map_nil, List.append_nil]

theorem Intact.step (hi : h.Intact) (s : ChannelStep) : (h.step s).Intact := by
  cases s with
  | send frame => exact hi.send frame
  | close => exact hi.close
  | abort error => exact hi.abort error
  | receive => exact hi.receive

theorem Intact.after (hi : h.Intact) (steps : List ChannelStep) : (h.after steps).Intact :=
  List.foldlRecOn steps ChannelHistory.step hi fun _ hi s _ => hi.step s

/-- Every run from a new channel keeps the invariant. -/
theorem intact_after (steps : List ChannelStep) : (({} : ChannelHistory).after steps).Intact :=
  intact_init.after steps

/-! ## What is found from there on -/

/-- At every point the reader has found the first of what there is to find. -/
theorem Intact.found_eq (hi : h.Intact) {n : Nat} (hn : h.found.length ≤ n) :
    h.found = (h.script StreamEnding.kept n).take h.found.length := by
  obtain ⟨ends, hle, heq⟩ := hi.complete
  have hprefix : h.found <+: h.script StreamEnding.kept n :=
    (List.prefix_append _ _).trans (heq ▸ script_prefix _ (Nat.le_trans hle hn))
  exact List.prefix_iff_eq_take.1 hprefix

theorem readOn_succ (h : ChannelHistory) (n : Nat) :
    h.readOn (n + 1) = (h.readOn n).step .receive := by
  simp [readOn, after, List.replicate_succ', List.foldl_append]

theorem Intact.readOn (hi : h.Intact) (n : Nat) : (h.readOn n).Intact :=
  hi.after _

/-- A step of the reader finds something, unless an open stream has nothing left. -/
theorem Intact.receive_cases (hi : h.Intact) :
    (∃ answer channel,
      h.step .receive = { h with channel, found := h.found ++ [answer] }) ∨
    (h.step .receive = h ∧ h.ending = none ∧ h.found = h.put.map (.item ∘ .frame)) := by
  cases hitems : h.channel.items with
  | cons item items => exact .inl ⟨_, _, step_receive_item hi.reading hitems⟩
  | nil =>
    cases hwriting : h.channel.writing with
    | false => exact .inl ⟨_, _, step_receive_ended hi.reading hitems hwriting⟩
    | true =>
      have hopen : h.ending = none := by simpa [hwriting] using hi.writing
      have hfound := hi.complete_of_open hopen
      rw [hitems, List.map_nil, List.append_nil] at hfound
      exact .inr ⟨step_receive_open hi.reading hitems hwriting, hopen, hfound⟩

/-- When an open stream has nothing left, the reader has to wait. -/
theorem Intact.receive_of_all (hi : h.Intact) (hopen : h.ending = none)
    (hfound : h.found = h.put.map (.item ∘ .frame)) : h.step .receive = h := by
  have heq := hi.complete_of_open hopen
  rw [← hfound, List.append_right_eq_self, List.map_eq_nil_iff] at heq
  exact step_receive_open hi.reading heq (by rw [hi.writing, hopen]; rfl)

/-- Reading puts nothing into the channel and does not end the stream. -/
theorem Intact.readOn_frame (hi : h.Intact) (n : Nat) :
    (h.readOn n).put = h.put ∧ (h.readOn n).ending = h.ending := by
  induction n with
  | zero => exact ⟨rfl, rfl⟩
  | succ n ih =>
    rw [readOn_succ]
    rcases (hi.readOn n).receive_cases with ⟨_, _, hstep⟩ | ⟨hstep, -⟩ <;> rwa [hstep]

theorem Intact.readOn_script (hi : h.Intact) (n : Nat) : (h.readOn n).script = h.script := by
  obtain ⟨hput, hending⟩ := hi.readOn_frame n
  funext behind ends
  unfold script
  rw [hput, hending]

/-- A reader that reads on finds as much as it asks for, or all that there is in an open stream. -/
theorem Intact.readOn_length (hi : h.Intact) (n : Nat) :
    (h.readOn n).found.length = h.found.length + n ∨
      (h.readOn n).found.length ≤ h.found.length + n ∧ h.ending = none ∧
        (h.readOn n).found = h.put.map (.item ∘ .frame) := by
  induction n with
  | zero => exact .inl rfl
  | succ n ih =>
    obtain ⟨hput, hending⟩ := hi.readOn_frame n
    rw [readOn_succ]
    rcases ih with hlen | ⟨hlen, hopen, hfound⟩
    · rcases (hi.readOn n).receive_cases with ⟨answer, channel, hstep⟩ | ⟨hstep, hopen, hfound⟩
      · left
        rw [hstep]
        show ((h.readOn n).found ++ [answer]).length = _
        rw [List.length_append, hlen]
        rfl
      · right
        rw [hput] at hfound
        rw [hending] at hopen
        rw [hstep]
        exact ⟨by omega, hopen, hfound⟩
    · -- Once the reader has to wait, it waits for good: nobody writes while it reads on.
      right
      have hstep := (hi.readOn n).receive_of_all (hending.trans hopen) (hput ▸ hfound)
      rw [hstep]
      exact ⟨by omega, hopen, hfound⟩

/-- What a reader finds that reads on. -/
theorem Intact.readOn_found (hi : h.Intact) (n : Nat) :
    (h.readOn n).found = h.opening StreamEnding.kept (h.found.length + n) := by
  unfold opening
  rcases hi.readOn_length n with hlen | ⟨hlen, hopen, hfound⟩
  · have heq := (hi.readOn n).found_eq (Nat.le_of_eq hlen)
    rwa [hlen, hi.readOn_script] at heq
  · rw [script_of_open _ _ hopen, ← hfound, List.take_of_length_le hlen]

/-- What is found right behind the frames of a stream that has ended. -/
theorem opening_behind (behind : StreamEnding → List ChannelItem) {e : StreamEnding}
    (he : h.ending = some e) {n : Nat} (hn : h.put.length < n) :
    (h.opening behind n)[h.put.length]? = some (((behind e).head?.map .item).getD .ended) := by
  have hpos : 0 < n := Nat.zero_lt_of_lt hn
  rw [opening, script_of_ended _ _ he, List.getElem?_take_of_lt hn,
    List.getElem?_append_right (by simp)]
  cases behind e <;> simp [hpos]

/-- Where the error did not fit, there is a clean end in its place. -/
theorem opening_promised_ne {e : StreamEnding} (he : h.ending = some e) (hfits : ¬e.Fits) {n : Nat}
    (hn : h.put.length < n) :
    h.opening StreamEnding.promised n ≠ h.opening StreamEnding.kept n := by
  intro heq
  have hat := opening_behind StreamEnding.promised he hn
  rw [heq, opening_behind StreamEnding.kept he hn] at hat
  cases e with
  | closed => exact hfits trivial
  | aborted error unread => simp [StreamEnding.kept, hfits, StreamEnding.promised] at hat

/-- Where everything fits, the promise is kept. -/
theorem opening_promised_eq (hfits : ∀ e, h.ending = some e → e.Fits) (n : Nat) :
    h.opening StreamEnding.promised n = h.opening StreamEnding.kept n := by
  unfold opening
  cases he : h.ending with
  | none => rw [script_of_open _ _ he, script_of_open _ _ he]
  | some e =>
    have hkept : e.kept = e.promised := if_pos (hfits e he)
    rw [script_of_ended _ _ he, script_of_ended _ _ he, hkept]

/-- **What a reader finds**, in every run of a channel whose reader stays: the frames that were put
in, each once and in order, and behind them a clean end after `close`. After `abort` it is the error
if there was room for it, and a clean end otherwise, so that the promise of an honest ending is kept
exactly in the first case. -/
theorem found_readOn (steps : List ChannelStep) :
    let h := ({} : ChannelHistory).after steps
    (∀ n, (h.readOn n).found = h.opening StreamEnding.kept (h.found.length + n)) ∧
      ((∀ n, (h.readOn n).found = h.opening StreamEnding.promised (h.found.length + n)) ↔
        ∀ e, h.ending = some e → e.Fits) := by
  intro h
  have hi : h.Intact := intact_after steps
  refine ⟨hi.readOn_found, fun hpromise e he => ?_, fun hfits n => ?_⟩
  · refine Decidable.byContradiction fun hlost => ?_
    have heq := hpromise (h.put.length + 1)
    rw [hi.readOn_found] at heq
    exact opening_promised_ne he hlost (by omega) heq.symm
  · rw [hi.readOn_found, opening_promised_eq hfits]

/-- With seventeen frames that nobody has read when the stream is aborted, the reader finds them and
then a clean end. -/
theorem clean_end_of_full_channel :
    let h := ({} : ChannelHistory).after
      (List.replicate 17 (.send (.data [120])) ++ [.abort (.stream "boom")])
    h.ending = some (.aborted (.stream "boom") 17) ∧
      (h.readOn 18).found = List.replicate 17 (.item (.frame (.data [120]))) ++ [.ended] := by
  decide

end ChannelHistory

end TrafficGateway
