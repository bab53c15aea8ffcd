import Mathlib.Data.List.Basic
import TrafficGateway.Forward.Hop
import TrafficGateway.Gateway.Transport
import TrafficGateway.Proofs.Http.Headers

/-!
# Values that cannot be read

A value that is not text should count as absent: a request should be read as if such values were taken
out of it (`RequestHead.readable`). Cookies are read that way, for all lines are looked at. Every other
reader looks at the first value of a name and gives up if that one is not text, and so an unreadable value
hides the readable ones behind it (`Headers.Hides`).

One lemma says when that is noticed (`Headers.read_readable_iff`): a reader of a single value tells a
request from its cleaned form just if it tells nothing from the text that is hidden. The readers are
instances of it.

## Main definitions

* `Headers.readable`: the fields whose values are text.
* `Headers.firstText?`: the first of the values of a name that is text.
* `Headers.Hides`: an unreadable value stands before the first that is text.

## Main statements

* `RequestHead.reads_cleaned_iff`: which readers agree on a request and its cleaned form, and when.
-/

namespace TrafficGateway

namespace Headers

variable {h : Headers} {name text : String}

/-- The fields whose values are text. -/
def readable (h : Headers) : Headers :=
  h.filter fun e => HeaderValue.isText e.2

/-- The first of the values of a name that is text. -/
def firstText? (h : Headers) (name : String) : Option String :=
  (h.getAll name).findSome? HeaderValue.text?

/-- The first value of a name is not text, and the first that is text stands behind it. -/
def Hides (h : Headers) (name text : String) : Prop :=
  (∃ value, h.get? name = some value ∧ HeaderValue.isText value = false) ∧
    h.firstText? name = some text

/-! ## All values -/

theorem getAll_readable : h.readable.getAll name = (h.getAll name).filter HeaderValue.isText := by
  rw [getAll, getAll, readable, List.filter_filter, List.filter_map, List.filter_filter]
  refine congrArg (List.map Prod.snd) (List.filter_congr fun e _ => ?_)
  exact Bool.and_comm _ _

/-- Taking out what cannot be read leaves what can be read. -/
theorem filterMap_text?_filter (values : List HeaderValue) :
    (values.filter HeaderValue.isText).filterMap HeaderValue.text? =
      values.filterMap HeaderValue.text? := by
  rw [List.filterMap_filter]
  refine List.filterMap_congr fun value _ => ?_
  by_cases hvalue : HeaderValue.isText value
  · rw [if_pos hvalue]
  · rw [if_neg hvalue, HeaderValue.text?, if_neg hvalue]

/-! ## The first value -/

theorem firstText?_eq_head? : h.firstText? name = ((h.getAll name).filterMap HeaderValue.text?).head? :=
  (List.head?_filterMap ..).symm

/-- Of the cleaned fields, the first value of a name is the first that is text. -/
theorem text?_readable : h.readable.text? name = h.firstText? name := by
  rw [firstText?_eq_head?, ← filterMap_text?_filter, ← getAll_readable, text?, get?_eq_head?_getAll]
  have hall : ∀ value ∈ h.readable.getAll name, HeaderValue.isText value := by
    rw [getAll_readable]
    intro value hvalue
    exact (List.mem_filter.1 hvalue).2
  cases hvalues : h.readable.getAll name with
  | nil => rfl
  | cons value rest =>
    rw [hvalues] at hall
    have htext := hall value List.mem_cons_self
    show HeaderValue.text? value = _
    rw [List.filterMap_cons, HeaderValue.text?, if_pos htext]
    rfl

/-- A reader of a single value notices that values which cannot be read are gone just if one of them
hides a text that the reader tells from nothing. -/
theorem read_readable_iff {α : Type} (read : Option String → α) :
    read (h.text? name) = read (h.readable.text? name) ↔
      ∀ text, h.Hides name text → read none = read (some text) := by
  rw [text?_readable, text?]
  cases hget : h.get? name with
  | none =>
    -- There are no values at all.
    have hnone : h.firstText? name = none := by
      rw [get?_eq_head?_getAll, List.head?_eq_none_iff] at hget
      rw [firstText?, hget]
      rfl
    rw [hnone]
    refine iff_of_true rfl ?_
    rintro text ⟨⟨value, hvalue, -⟩, -⟩
    rw [hget] at hvalue
    cases hvalue
  | some value =>
    by_cases hvalue : HeaderValue.isText value
    · -- Nothing is hidden, for the first value is the first that is text.
      have hfirst : h.firstText? name = HeaderValue.text? value := by
        rw [get?_eq_head?_getAll, List.head?_eq_some_iff] at hget
        obtain ⟨rest, hrest⟩ := hget
        rw [firstText?, hrest, List.findSome?_cons, HeaderValue.text?, if_pos hvalue]
      rw [hfirst]
      refine iff_of_true rfl ?_
      rintro text ⟨⟨value', hvalue', hnot⟩, -⟩
      rw [hget] at hvalue'
      cases hvalue'
      exact absurd hvalue (by rw [hnot]; decide)
    · have hunread : (some value).bind HeaderValue.text? = none := if_neg hvalue
      rw [hunread]
      constructor
      · rintro hread text ⟨-, htext⟩
        rwa [htext] at hread
      · intro hhides
        cases htext : h.firstText? name with
        | none => rfl
        | some text => exact hhides text ⟨⟨value, hget, by simpa using hvalue⟩, htext⟩

end Headers

/-! ## The readers -/

/-- The request without the fields whose values are not text. -/
def RequestHead.readable (r : RequestHead) : RequestHead :=
  { r with headers := r.headers.readable }

/-- The lines of cookies are all looked at. -/
theorem RequestHead.cookies_readable (r : RequestHead) : r.readable.view.cookies = r.view.cookies := by
  show ((r.headers.readable.getAll "cookie").filterMap HeaderValue.text?).flatMap _ = _
  rw [Headers.getAll_readable, Headers.filterMap_text?_filter]
  rfl

theorem RequestHead.host_readable_iff (r : RequestHead) :
    r.view.host = r.readable.view.host ↔
      ∀ text, r.headers.Hides "host" text → text = r.uri.authority.getD "" := by
  refine (Headers.read_readable_iff fun host => (host.or r.uri.authority).getD "").trans ?_
  refine forall_congr' fun text => imp_congr_right fun _ => ?_
  show r.uri.authority.getD "" = text ↔ _
  exact eq_comm

theorem isStreamingCall_readable_iff (h : Headers) :
    isStreamingCall h = isStreamingCall h.readable ↔
      ∀ text, h.Hides "content-type" text → ¬"application/grpc".toList <+: text.toList := by
  have hcall (h : Headers) : isStreamingCall h =
      (h.text? "content-type").any fun mime => "application/grpc".toList.isPrefixOf mime.toList := by
    rw [isStreamingCall]
    cases h.text? "content-type" with
    | none => rfl
    | some mime => rfl
  rw [hcall, hcall]
  refine (Headers.read_readable_iff _).trans (forall_congr' fun text => imp_congr_right fun _ => ?_)
  rw [← List.isPrefixOf_iff_prefix, eq_comm, Option.any_some, Option.any_none, Bool.not_eq_true]

namespace Transport

variable (t : Transport) (versionHeader : String) (h : Headers)

theorem context_version_readable_iff :
    (t.context versionHeader h).version = (t.context versionHeader h.readable).version ↔
      ∀ text, h.Hides versionHeader text → text = "" := by
  refine (Headers.read_readable_iff fun version => version.filter fun v => !v.isEmpty).trans ?_
  refine forall_congr' fun text => imp_congr_right fun _ => ?_
  show none = Option.filter _ (some text) ↔ _
  rw [Option.filter_some]
  by_cases htext : text = ""
  · rw [htext]
    exact iff_of_true rfl rfl
  · simp [htext]

theorem context_hashKey_readable_iff :
    (t.context versionHeader h).hashKey = (t.context versionHeader h.readable).hashKey ↔
      ∀ name, t.hashHeader = some name → ∀ text, h.Hides name text → text = "" := by
  cases hname : t.hashHeader with
  | none => simp [context, RouteContext.ofSignals, hname]
  | some name =>
    simp only [context, RouteContext.ofSignals, hname, Option.map_some]
    refine (Headers.read_readable_iff fun key => some (key.getD "")).trans ?_
    constructor
    · rintro hhides _ ⟨⟩ text htext
      exact (Option.some.inj (hhides text htext)).symm
    · intro hhides text htext
      rw [hhides name rfl text htext]
      rfl

end Transport

namespace RequestHead

/-- **A value that cannot be read counts as absent to the reader of cookies; to the others just if it hides
nothing that they would notice.** On a cleaned request a header is the first of its values that is text.
On the request itself it is the same just if no unreadable value stands before that text. The host is the
same just if what is hidden in that way is what the address says anyway, the version and the hash key if it
is empty, and the kind of call if it is no type of a stream. -/
theorem reads_cleaned_iff (r : RequestHead) (t : Transport) (versionHeader : String) :
    (∀ name, r.readable.view.header name = r.headers.firstText? name ∧
      (r.view.header name = r.readable.view.header name ↔ ∀ text, ¬r.headers.Hides name text)) ∧
    (∀ name, r.view.cookie name = r.readable.view.cookie name) ∧
    (r.view.host = r.readable.view.host ↔
      ∀ text, r.headers.Hides "host" text → text = r.uri.authority.getD "") ∧
    (t.context versionHeader r.headers = t.context versionHeader r.readable.headers ↔
      (∀ text, r.headers.Hides versionHeader text → text = "") ∧
      ∀ name, t.hashHeader = some name → ∀ text, r.headers.Hides name text → text = "") ∧
    (isStreamingCall r.headers = isStreamingCall r.readable.headers ↔
      ∀ text, r.headers.Hides "content-type" text → ¬"application/grpc".toList <+: text.toList) := by
  refine ⟨fun name => ⟨Headers.text?_readable, ?_⟩, fun name => ?_, r.host_readable_iff, ?_,
    isStreamingCall_readable_iff r.headers⟩
  · refine (Headers.read_readable_iff id).trans (forall_congr' fun text => ?_)
    -- Nothing is told from every text.
    show (_ → none = some text) ↔ _
    exact imp_congr_right fun _ => iff_of_false nofun id
  · rw [RequestView.cookie, RequestView.cookie, RequestHead.cookies_readable]
  · rw [← t.context_version_readable_iff versionHeader, ← t.context_hashKey_readable_iff versionHeader]
    constructor
    · intro heq
      exact ⟨congrArg RouteContext.version heq, congrArg RouteContext.hashKey heq⟩
    · rintro ⟨hversion, hkey⟩
      exact congrArg₂ RouteContext.mk hversion hkey

/-- A request with two lines for a user, the first of them not text: the header is absent, although the
second line could be read. -/
theorem unreadable_line_hides_user :
    let r : RequestHead :=
      { uri := { target := { path := "/" } }, headers := [("x-user", [0xff]), ("x-user", "alice".toUTF8.toList)] }
    r.view.header "x-user" = none ∧ r.readable.view.header "x-user" = some "alice" := by
  decide +kernel

end RequestHead

end TrafficGateway
