import TrafficGateway.Forward.Endpoint
import TrafficGateway.Proofs.Http.Authority

/-!
# What is used of a configured target

A target is an authority, or an address with a scheme. An authority is used whole or refused. Of an
address the scheme and the authority are used, and whatever stands behind them is read and then
dropped: a path, a query or a fragment (`Endpoint.ofTarget_whole_iff`).

The text of an endpoint has a scheme. It is read back as the same endpoint, unless it is too long for an
address: an authority by itself may be of any length, and the text is a scheme longer.

## Main definitions

* `Endpoint.IsWrittenAs`: the texts of an endpoint, which differ in the case of the scheme.

## Main statements

* `Endpoint.ofTarget_render_iff`: which endpoints are read back.
* `Endpoint.ofTarget_whole_iff`: what is kept of a target.
-/

namespace TrafficGateway

theorem hasInfix_iff {α : Type} [BEq α] [LawfulBEq α] {needle as : List α} :
    hasInfix needle as = true ↔ needle <:+: as := by
  induction as with
  | nil => rw [hasInfix, List.isEmpty_iff, List.infix_nil]
  | cons a as ih =>
    rw [hasInfix, Bool.or_eq_true, List.isPrefixOf_iff_prefix, ih, List.infix_cons_iff]

namespace Endpoint

variable {e : Endpoint} {target : String}

/-- The text is that of the endpoint, up to the case of the scheme. -/
def IsWrittenAs (e : Endpoint) (target : String) : Prop :=
  ∃ scheme, asciiLower scheme = asciiLower e.scheme ∧ target = scheme ++ "://" ++ e.authority

/-- All texts of an endpoint are of the same length. -/
theorem length_of_isWrittenAs (h : e.IsWrittenAs target) : target.length = e.render.length := by
  obtain ⟨scheme, hscheme, rfl⟩ := h
  have hlen : scheme.length = e.scheme.length := by
    rw [← length_asciiLower, hscheme, length_asciiLower]
  simp only [render, String.length_append, hlen]

/-! ## Reading a text back -/

/-- An address is read for what it is if there is one in the target. -/
theorem ofTarget_of_address (h : "://".toList <:+: target.toList) :
    ofTarget target =
      match Uri.read target with
      | none => .error .invalidAddress
      | some uri =>
        match uri.authority with
        | some authority => .ok ⟨uri.scheme.getD defaultScheme, authority⟩
        | none => .error (.route (.invalid (.noAuthority target))) :=
  if_pos (hasInfix_iff.2 h)

theorem ofTarget_of_no_address (h : ¬"://".toList <:+: target.toList) :
    ofTarget target = ofAuthority target :=
  if_neg fun haddress => h (hasInfix_iff.1 haddress)

theorem infix_render (e : Endpoint) : "://".toList <:+: e.render.toList := by
  refine ⟨e.scheme.toList, e.authority.toList, ?_⟩
  rw [render, String.toList_append, String.toList_append]

theorem isWrittenAs_defaultScheme : Scheme.IsWrittenAs defaultScheme defaultScheme :=
  ⟨List.all_eq_true.1 (by decide), .inl ⟨(asciiLower_eq_self (by decide)).symm, .inl rfl⟩⟩

/-- The text of an endpoint is read back unless it is too long, if its scheme and its authority are. -/
theorem ofTarget_render_iff (hscheme : Scheme.IsWrittenAs e.scheme e.scheme)
    (hauthority : Authority.read e.authority = some e.authority) :
    ofTarget e.render = .ok e ↔ e.render.utf8ByteSize ≤ Uri.maxLength := by
  rw [ofTarget_of_address e.infix_render]
  constructor
  · intro hok
    by_contra hlong
    have hread : Uri.read e.render = none := if_pos (Nat.lt_of_not_le hlong)
    rw [hread] at hok
    cases hok
  · intro hlen
    have htext : e.render.toList =
        e.scheme.toList ++ "://".toList ++ (e.authority.toList ++ []) := by
      rw [render, String.toList_append, String.toList_append, List.append_nil]
    have hsplit : Authority.split (e.authority.toList ++ []) = (e.authority.toList, []) := by
      rw [List.append_nil]
      exact Authority.split_eq_self (Authority.continues_of_read hauthority).2
    have hread : Uri.read e.render = some ⟨some e.scheme, some e.authority, ⟨"", none⟩⟩ :=
      Uri.read_of_parts hlen hscheme htext hsplit hauthority rfl
    rw [hread]
    rfl

/-! ## What is kept -/

/-- A target with an address is written as a scheme, an authority and something behind them; of these
the first two are kept. -/
theorem exists_of_ofTarget (haddress : "://".toList <:+: target.toList) (h : ofTarget target = .ok e) :
    ∃ scheme tail, Scheme.IsWrittenAs e.scheme scheme ∧
      target = scheme ++ "://" ++ e.authority ++ tail ∧
      (∀ c ∈ tail.toList.head?, c = '/' ∨ c = '?' ∨ c = '#') ∧
      Authority.read e.authority = some e.authority ∧ target.utf8ByteSize ≤ Uri.maxLength := by
  rw [ofTarget_of_address haddress] at h
  split at h
  · cases h
  · next uri hread =>
    split at h
    · next authority hauthority =>
      obtain rfl := Except.ok.inj h
      obtain ⟨hlen, halone | hparts⟩ := Uri.exists_of_read hread hauthority
      · -- no authority by itself has the slashes of a scheme
        have hslash : '/' ∈ target.toList := haddress.subset (by decide)
        exact absurd (halone _ hslash) (by decide)
      · obtain ⟨scheme, written, rest, path, hwritten, hs, hsplit, hwhole, -, rfl⟩ := hparts
        refine ⟨written, String.ofList rest, hwritten, ?_, ?_, hwhole, hlen⟩
        · rw [← String.toList_inj, hs]
          simp [String.toList_append]
        · intro c hc
          rw [String.toList_ofList] at hc
          have hends := Authority.continues_head?_of_split hsplit c hc
          simpa [Authority.continues, ← Classical.or_iff_not_imp_left, or_assoc] using hends
    · cases h

/-- **What is kept of a target.** A target with an address in it is a text of its endpoint and something
behind that, which is nothing or begins as a path, a query or a fragment does. The target is used whole
exactly if there is nothing; in any case the text of the endpoint is read back. A target without an
address is used whole: with the default scheme in front it is the text of the endpoint, which is read back
exactly if it is not too long. -/
theorem ofTarget_whole_iff (h : ofTarget target = .ok e) :
    ("://".toList <:+: target.toList →
      ∃ text tail, e.IsWrittenAs text ∧ target = text ++ tail ∧
        (∀ c ∈ tail.toList.head?, c = '/' ∨ c = '?' ∨ c = '#') ∧
        (e.IsWrittenAs target ↔ tail = "") ∧ ofTarget e.render = .ok e) ∧
    (¬"://".toList <:+: target.toList →
      e.render = "http://" ++ target ∧
        (ofTarget e.render = .ok e ↔ e.render.utf8ByteSize ≤ Uri.maxLength)) := by
  constructor
  · intro haddress
    obtain ⟨scheme, tail, hscheme, htarget, htail, hauthority, hlen⟩ := exists_of_ofTarget haddress h
    have htext : e.IsWrittenAs (scheme ++ "://" ++ e.authority) :=
      ⟨scheme, Scheme.asciiLower_eq_of_isWrittenAs hscheme, rfl⟩
    refine ⟨_, tail, htext, htarget, htail, ⟨fun hwhole => ?_, fun hnone => ?_⟩, ?_⟩
    · -- the target would be as long as the part of it that is kept
      have hsame := (length_of_isWrittenAs hwhole).trans (length_of_isWrittenAs htext).symm
      rw [htarget, String.length_append] at hsame
      rw [← String.length_eq_zero_iff]
      omega
    · rwa [htarget, hnone, String.append_empty]
    · refine (ofTarget_render_iff (Scheme.isWrittenAs_self hscheme) hauthority).2 ?_
      have hsize : e.render.utf8ByteSize + tail.utf8ByteSize = target.utf8ByteSize := by
        rw [htarget, render]
        simp only [String.utf8ByteSize_append, Scheme.utf8ByteSize_of_isWrittenAs hscheme]
      omega
  · intro hno
    rw [ofTarget_of_no_address hno, ofAuthority] at h
    split at h
    · next authority hread =>
      obtain rfl := Except.ok.inj h
      obtain ⟨rfl, -⟩ := Authority.continues_of_read hread
      exact ⟨rfl, ofTarget_render_iff isWrittenAs_defaultScheme hread⟩
    · cases h

/-- A target with its scheme in upper case is used whole, and its endpoint is read back. -/
theorem upper_target_whole :
    ofTarget "HTTP://10.0.0.1:80" = .ok ⟨"http", "10.0.0.1:80"⟩ ∧
      (⟨"http", "10.0.0.1:80"⟩ : Endpoint).IsWrittenAs "HTTP://10.0.0.1:80" ∧
      ofTarget "http://10.0.0.1:80" = .ok ⟨"http", "10.0.0.1:80"⟩ := by
  have hread : ofTarget "HTTP://10.0.0.1:80" = .ok ⟨"http", "10.0.0.1:80"⟩ := by decide +kernel
  have haddress : "://".toList <:+: "HTTP://10.0.0.1:80".toList := hasInfix_iff.1 (by decide)
  have hupper : asciiLower "HTTP" = "http" := by decide +kernel
  have hlower : asciiLower "http" = "http" := asciiLower_eq_self (by decide)
  have htext : "HTTP://10.0.0.1:80" = "HTTP" ++ "://" ++ "10.0.0.1:80" := by decide +kernel
  have hrender : (⟨"http", "10.0.0.1:80"⟩ : Endpoint).render = "http://10.0.0.1:80" := by
    decide +kernel
  obtain ⟨-, -, -, -, -, -, hback⟩ := (ofTarget_whole_iff hread).1 haddress
  exact ⟨hread, ⟨"HTTP", hupper.trans hlower.symm, htext⟩, hrender ▸ hback⟩

/-- The path and the query of a target are dropped without a word, while a target without a scheme is
refused for them. -/
theorem path_is_dropped :
    ofTarget "http://10.0.0.1:80/base?x=1" = .ok ⟨"http", "10.0.0.1:80"⟩ ∧
      ¬(⟨"http", "10.0.0.1:80"⟩ : Endpoint).IsWrittenAs "http://10.0.0.1:80/base?x=1" ∧
      ofTarget "10.0.0.1:80/base?x=1" = .error .invalidAddress := by
  refine ⟨by decide +kernel, fun hwritten => ?_, by decide +kernel⟩
  exact absurd (length_of_isWrittenAs hwritten) (by decide +kernel)

end Endpoint

end TrafficGateway
