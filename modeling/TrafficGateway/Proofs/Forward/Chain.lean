import TrafficGateway.Proofs.Forward.Hop
import TrafficGateway.Proofs.Http.Headers

/-!
# The chain of addresses that a request came through

Every gateway on the way of a request adds the address of its client to the `x-forwarded-for` header.
The chain may be written on one line or on several, which read as if they were one list
(`HeaderValue.join`).

The client is added to the first line, and the line that this makes takes the place of all of them. So
the chain is extended if it is written on at most one line, and that line is text; otherwise what stands
on the other lines, or on a line that is not text, is lost (`forwardedFor_extended_iff`).

## Main definitions

* `HeaderValue.join`: the values of one name, read as one list.
-/

namespace TrafficGateway

namespace HeaderValue

/-- The values of one name, read as one list: one behind the other, with commas between them. -/
def join (values : List HeaderValue) : HeaderValue :=
  (ofText ", ").intercalate values

theorem join_cons {values : List HeaderValue} (v : HeaderValue) (hne : values ≠ []) :
    join (v :: values) = v ++ ofText ", " ++ join values := by
  obtain ⟨w, ws, rfl⟩ := List.exists_cons_of_ne_nil hne
  rw [join, join, List.intercalate_cons_cons, List.append_assoc]

theorem join_singleton (v : HeaderValue) : join [v] = v :=
  List.intercalate_singleton

/-- Each value that stands before the last one is followed by a comma. -/
theorem join_concat (values : List HeaderValue) (last : HeaderValue) :
    join (values ++ [last]) = values.flatMap (· ++ ofText ", ") ++ last := by
  induction values with
  | nil => exact join_singleton last
  | cons v values ih =>
    rw [List.cons_append, join_cons v (by simp), ih, List.flatMap_cons, ← List.append_assoc]

/-- The first of some values, if it is text. -/
def leading (values : List HeaderValue) : List HeaderValue :=
  (values.take 1).filter isText

/-- A list that is cut down to its first value is the same only where that is all there is. -/
theorem join_leading_iff (values : List HeaderValue) (last : HeaderValue) :
    join (leading values ++ [last]) = join (values ++ [last]) ↔
      values.length ≤ 1 ∧ ∀ v ∈ values, isText v := by
  constructor
  · intro heq
    rw [join_concat, join_concat, List.append_left_inj] at heq
    have hsep : ofText ", " ≠ [] := by decide +kernel
    rcases values with _ | ⟨v, _ | ⟨w, rest⟩⟩
    · simp
    · by_cases htext : isText v
      · simp [htext]
      · simp [leading, htext, hsep] at heq
    · -- Whether the first is text or not, the second is missing.
      by_cases htext : isText v <;> simp [leading, htext, hsep] at heq
  · rintro ⟨hlen, htext⟩
    rw [leading, List.take_of_length_le hlen, List.filter_eq_self.2 htext]

end HeaderValue

/-! ## The headers of a request to a backend -/

namespace Headers

variable {h : Headers} {name : String}

theorem asciiLower_host : asciiLower "host" = "host" :=
  asciiLower_eq_self (by decide)

theorem asciiLower_forwardedHost : asciiLower "x-forwarded-host" = "x-forwarded-host" :=
  asciiLower_eq_self (by decide)

theorem asciiLower_forwardedFor : asciiLower "x-forwarded-for" = "x-forwarded-for" :=
  asciiLower_eq_self (by decide)

/-- The line to which the client was added, from what was on the lines before. -/
theorem chain_eq (h : Headers) (client : String) :
    HeaderValue.ofText
        (match h.text? "x-forwarded-for" with
        | some existing => existing ++ ", " ++ client
        | none => client) =
      HeaderValue.join
        (HeaderValue.leading (h.getAll "x-forwarded-for") ++ [HeaderValue.ofText client]) := by
  rw [text?, get?_eq_head?_getAll]
  cases h.getAll "x-forwarded-for" with
  | nil => exact (HeaderValue.join_singleton _).symm
  | cons v rest =>
    rw [List.head?_cons, Option.bind_some]
    cases htext : HeaderValue.text? v with
    | none =>
      have hnot : HeaderValue.isText v = false := by rw [← HeaderValue.text?_isSome, htext]; rfl
      simp [HeaderValue.leading, hnot, HeaderValue.join_singleton]
    | some existing =>
      have his : HeaderValue.isText v = true := by rw [← HeaderValue.text?_isSome, htext]; rfl
      have hleading : HeaderValue.leading (v :: rest) = [v] := by simp [HeaderValue.leading, his]
      rw [hleading, List.singleton_append, HeaderValue.join_cons _ (by simp),
        HeaderValue.join_singleton, HeaderValue.ofText_append, HeaderValue.ofText_append,
        HeaderValue.ofText_of_text? htext]

/-- The headers of a request to a backend come about in three steps, of which only the first and the
last concern headers other than those of the host. -/
theorem forwardedHeaders_eq (h : Headers) (client : String) :
    ∃ moved : Headers,
      (∀ name, name ≠ "host" → name ≠ "x-forwarded-host" →
        moved.filter (·.1 == name) = (h.stripHop false).filter (·.1 == name)) ∧
      forwardedHeaders h (some client) = moved.insert "x-forwarded-for"
        (HeaderValue.join
          (HeaderValue.leading (moved.getAll "x-forwarded-for") ++ [HeaderValue.ofText client])) := by
  cases hhost : (h.stripHop false).get? "host" with
  | none =>
    refine ⟨h.stripHop false, fun _ _ _ => rfl, ?_⟩
    simp only [forwardedHeaders, hhost]
    exact congrArg (Headers.insert _ "x-forwarded-for") (chain_eq _ client)
  | some host =>
    refine ⟨((h.stripHop false).remove "host").insert "x-forwarded-host" host, ?_, ?_⟩
    · intro name hne hne'
      rw [filter_insert_of_ne (by rwa [asciiLower_forwardedHost]),
        filter_remove_of_ne (by rwa [asciiLower_host])]
    · simp only [forwardedHeaders, hhost]
      exact congrArg (Headers.insert _ "x-forwarded-for") (chain_eq _ client)

/-- **When the chain is extended.** Let `x-forwarded-for` be named by no `connection` header. All lines of
the chain and the client, read as one list, are what is sent exactly if the chain is on at most one line
and that line is text. In any case one line is sent, which is the first line, if it is text, and the
client. The headers of all names that are neither those of one connection nor of the host are sent as
they came. -/
theorem forwardedFor_extended_iff (h : Headers) (client : String)
    (hnames : ¬h.Names "x-forwarded-for") :
    let lines := h.getAll "x-forwarded-for"
    let sent := forwardedHeaders h (some client)
    (HeaderValue.join (sent.getAll "x-forwarded-for") =
        HeaderValue.join (lines ++ [HeaderValue.ofText client]) ↔
      lines.length ≤ 1 ∧ ∀ line ∈ lines, HeaderValue.isText line) ∧
    sent.getAll "x-forwarded-for" =
      [HeaderValue.join (HeaderValue.leading lines ++ [HeaderValue.ofText client])] ∧
    ∀ name, name ∉ HopByHop.names → ¬h.Names name →
      name ∉ ["host", "x-forwarded-host", "x-forwarded-for"] →
      sent.filter (·.1 == name) = h.filter (·.1 == name) := by
  intro lines sent
  obtain ⟨moved, hmoved, heq⟩ := forwardedHeaders_eq h client
  have hlines : moved.getAll "x-forwarded-for" = lines := by
    refine getAll_congr ?_
    rw [asciiLower_forwardedFor, hmoved _ (by decide) (by decide),
      filter_stripHop (by decide) hnames]
  have hline : sent.getAll "x-forwarded-for" =
      [HeaderValue.join (HeaderValue.leading lines ++ [HeaderValue.ofText client])] := by
    show (forwardedHeaders h (some client)).getAll "x-forwarded-for" = _
    rw [heq, getAll_insert, hlines]
  refine ⟨?_, hline, fun name hhop hnamed hother => ?_⟩
  · rw [hline, HeaderValue.join_singleton]
    exact HeaderValue.join_leading_iff lines _
  · simp only [List.mem_cons, List.not_mem_nil, or_false, not_or] at hother
    obtain ⟨hhost, hforwardedHost, hforwardedFor⟩ := hother
    show (forwardedHeaders h (some client)).filter (·.1 == name) = _
    rw [heq, filter_insert_of_ne (by rwa [asciiLower_forwardedFor]), hmoved _ hhost hforwardedHost,
      filter_stripHop hhop hnamed]

/-- A chain on one line is extended, although the `connection` header names something else. -/
theorem forwardedFor_extended_line :
    let h : Headers := [("connection", "x-hint".toUTF8.toList),
      ("x-forwarded-for", "10.1.1.1".toUTF8.toList), ("x-hint", "1".toUTF8.toList)]
    ¬h.Names "x-forwarded-for" ∧
      HeaderValue.join ((forwardedHeaders h (some "192.168.0.9")).getAll "x-forwarded-for") =
        "10.1.1.1, 192.168.0.9".toUTF8.toList := by
  intro h
  have hnames : ¬h.Names "x-forwarded-for" := by decide +kernel
  have hlines : (h.getAll "x-forwarded-for").length ≤ 1 ∧
      ∀ line ∈ h.getAll "x-forwarded-for", HeaderValue.isText line := by decide +kernel
  refine ⟨hnames, ?_⟩
  rw [(forwardedFor_extended_iff h "192.168.0.9" hnames).1.2 hlines]
  decide +kernel

/-- Of a chain on two lines the second is lost. -/
theorem second_line_is_lost :
    let h : Headers := [("x-forwarded-for", "10.1.1.1".toUTF8.toList),
      ("x-forwarded-for", "10.2.2.2".toUTF8.toList)]
    let sent := forwardedHeaders h (some "192.168.0.9")
    ¬h.Names "x-forwarded-for" ∧
      HeaderValue.join (sent.getAll "x-forwarded-for") = "10.1.1.1, 192.168.0.9".toUTF8.toList ∧
      HeaderValue.join (h.getAll "x-forwarded-for" ++ [HeaderValue.ofText "192.168.0.9"]) =
        "10.1.1.1, 10.2.2.2, 192.168.0.9".toUTF8.toList := by
  decide +kernel

end Headers

end TrafficGateway
