import Mathlib
import TrafficGateway.Config.File
import TrafficGateway.Json.Writer
import TrafficGateway.Proofs.Config.Written
import TrafficGateway.Proofs.Json.Read
import TrafficGateway.Proofs.Json.Written

/-!
# Configurations that survive a round trip

What is read from the written form of a configuration is the configuration itself. For documents that
is all there is to say. A text must also be readable: the written form holds nothing that JSON cannot
write (`GatewayConfig.writable_toDocument`), and it nests no deeper than a text may. The latter is
close, since the lists of a comparison are always written and may have been left out in what was read.
But a comparison is a table at an even level, its lists are at an odd one
(`ExprConfig.even_depth_toDocument`), and the last level that a text may have is odd.

## Main statements

* `GatewayConfig.depth_lt_of_ofDocument`: what is written for a configuration in a text fits a text.
* `GatewayConfig.survives_round_trip`: configurations survive a round trip.
-/

namespace TrafficGateway

/-! ## Expressions -/

namespace ExprConfig

theorem depth_toDocument (e : ExprConfig) :
    e.toDocument.depth = max (Document.depth.depthOfItems (toDocuments e.all))
      (Document.depth.depthOfItems (toDocuments e.any)) + 2 := by
  obtain ⟨source, key, operator, value, all, any⟩ := e
  simp only [toDocument, Document.depth, Document.depth.depthOfEntries]
  omega

theorem depth_toDocuments_le_iff {es : List ExprConfig} {n : Nat} :
    Document.depth.depthOfItems (toDocuments es) ≤ n ↔ ∀ e ∈ es, e.toDocument.depth ≤ n := by
  induction es with
  | nil => simp [toDocuments, Document.depth.depthOfItems]
  | cons e es ih =>
    rw [toDocuments, Document.depth.depthOfItems, Nat.max_le, ih, List.forall_mem_cons]

mutual

/-- Every level of an expression is a table with lists in it. -/
theorem even_depth_toDocument : ∀ e : ExprConfig, 2 ∣ e.toDocument.depth
  | ⟨source, key, operator, value, all, any⟩ => by
    have hall := even_depth_toDocuments all
    have hany := even_depth_toDocuments any
    rw [depth_toDocument]
    dsimp only
    omega

theorem even_depth_toDocuments :
    ∀ es : List ExprConfig, 2 ∣ Document.depth.depthOfItems (toDocuments es)
  | [] => ⟨0, rfl⟩
  | e :: es => by
    have hfirst := even_depth_toDocument e
    have hrest := even_depth_toDocuments es
    rw [toDocuments, Document.depth.depthOfItems]
    omega

end

mutual

theorem writable_toDocument : ∀ e : ExprConfig, Json.Writable e.toDocument
  | ⟨source, key, operator, value, all, any⟩ => by
    have hall := writable_toDocuments all
    have hany := writable_toDocuments any
    rw [toDocument]
    refine .table ?_
    simp only [List.forall_mem_cons]
    exact ⟨.text _, .text _, .text _, .text _, .list hall, .list hany, List.forall_mem_nil _⟩

theorem writable_toDocuments : ∀ es : List ExprConfig, ∀ d ∈ toDocuments es, Json.Writable d
  | [] => List.forall_mem_nil _
  | e :: es => List.forall_mem_cons.2 ⟨writable_toDocument e, writable_toDocuments es⟩

end

/-- What is written for an expression that was read nests at most one level deeper, since the lists of
a comparison may have been left out. -/
theorem depth_le_of_ofDocumentWithin {bound : Nat} {d : Document} {e : ExprConfig} (hd : d.Typed)
    (h : ofDocumentWithin bound d = .ok e) : e.toDocument.depth ≤ d.depth + 1 := by
  induction bound generalizing d e with
  | zero => cases h
  | succ bound ih =>
    simp only [ofDocumentWithin, bind_eq_ok_iff] at h
    obtain ⟨r, hr, source, -, key, -, operator, -, value, -, all, hall, any, hany, h⟩ := h
    cases h
    have hchildren : ∀ {name : String} {es : List ExprConfig},
        r.withDefault name [] (fun d => d.asList >>= Document.decodeAll (ofDocumentWithin bound)) =
          .ok es → Document.depth.depthOfItems (toDocuments es) ≤ d.depth - 1 := by
      intro name es hes
      rw [depth_toDocuments_le_iff]
      intro e he
      rcases Document.exists_of_withDefault hd hr hes with rfl | ⟨list, hlist, hes⟩
      · cases he
      · -- A child is decoded from an item of a list in a field, two levels below.
        obtain ⟨item, hitem, he⟩ := Document.exists_of_mem_decodeList hlist.1 hes e he
        have hdepth := ih hitem.1 he
        have hout := hlist.2
        have hin := hitem.2
        omega
    have hpos := Document.depth_pos_of_asRecord hd hr
    have hall := hchildren hall
    have hany := hchildren hany
    rw [depth_toDocument]
    dsimp only
    omega

end ExprConfig

/-! ## Routes -/

theorem TargetConfig.writable_toDocument (t : TargetConfig) : Json.Writable t.toDocument :=
  .table (by
    simp only [List.forall_mem_cons]
    exact ⟨.text _, Json.writable_nat (Nat.lt_trans t.weight.toNat_lt (by decide)),
      List.forall_mem_nil _⟩)

theorem MockContent.writable_toDocument (m : MockContent) : Json.Writable m.toDocument :=
  .table (by
    simp only [List.forall_mem_cons]
    exact ⟨.text _, Json.writable_nat (Nat.lt_trans m.statusCode.toNat_lt (by decide)), .text _,
      List.forall_mem_nil _⟩)

namespace RouteConfig

theorem writable_toDocument (r : RouteConfig) : Json.Writable r.toDocument := by
  have hpriority : Json.Writable (.int r.priority.toInt) := by
    have hlow := r.priority.le_toInt
    have hhigh := r.priority.toInt_lt
    exact .int (by rw [UInt64.size]; omega) (by rw [UInt64.size]; omega)
  refine Json.writable_ofFields ?_
  simp only [List.forall_mem_cons, Option.mem_def, Option.some_inj, forall_eq', Option.map_eq_some_iff]
  refine ⟨.text _, .text _, ?_, hpriority, .text _, .text _,
    Json.writable_map TargetConfig.writable_toDocument, .text _, .text _, .text _, .text _, ?_,
    List.forall_mem_nil _⟩
  · rintro d ⟨e, -, rfl⟩
    exact e.writable_toDocument
  · rintro d ⟨m, -, rfl⟩
    exact m.writable_toDocument

/-- What is written for a route that was read nests no deeper than an odd bound on what was read: an
expression is written with an even depth. -/
theorem depth_le_of_ofDocument {n : Nat} {d : Document} {r : RouteConfig} (hd : d.Typed)
    (h : ofDocument d = .ok r) (hdepth : d.depth ≤ 2 * n + 3) : r.toDocument.depth ≤ 2 * n + 3 := by
  have hexpr : ∀ e ∈ r.expr, e.toDocument.depth ≤ 2 * n + 2 := by
    simp only [ofDocument, bind_eq_ok_iff] at h
    obtain ⟨fields, hfields, matchType, -, path, -, expr, hexpr, priority, -, targetType, -,
      serviceName, -, targets, -, policy, -, hashHeader, -, pathRule, -, replacePath, -, mock, -,
      h⟩ := h
    cases h
    rintro e (rfl : expr = some e)
    rcases Document.exists_of_withDefault hd hfields hexpr with h | ⟨part, hpart, he⟩
    · cases h
    · have hread : ExprConfig.ofDocument part = .ok e := Document.of_asOptional_eq_some he
      have hle := ExprConfig.depth_le_of_ofDocumentWithin hpart.1 hread
      have heven := e.even_depth_toDocument
      have hpart := hpart.2
      -- One level deeper than the part would be `2 * n + 3`, which is odd.
      omega
  have htargets : (Document.list (r.targets.map TargetConfig.toDocument)).depth ≤ 2 * n + 2 :=
    Document.depth_list_le_iff.2 (List.forall_mem_map.2 fun t _ => by
      simp [TargetConfig.toDocument, Document.depth, Document.depth.depthOfEntries, Document.nat])
  refine Document.depth_ofFields_le ?_
  simp only [List.forall_mem_cons, Option.mem_def, Option.some_inj, forall_eq', Option.map_eq_some_iff]
  refine ⟨Nat.zero_le _, Nat.zero_le _, ?_, Nat.zero_le _, Nat.zero_le _, Nat.zero_le _, htargets,
    Nat.zero_le _, Nat.zero_le _, Nat.zero_le _, Nat.zero_le _, ?_, List.forall_mem_nil _⟩
  · rintro d ⟨e, he, rfl⟩
    exact hexpr e he
  · rintro d ⟨m, -, rfl⟩
    simp [MockContent.toDocument, Document.depth, Document.depth.depthOfEntries, Document.nat]

end RouteConfig

/-! ## Services and gateways -/

theorem Instance.writable_toDocument (i : Instance) : Json.Writable i.toDocument :=
  .table (by
    simp only [List.forall_mem_cons]
    exact ⟨.text _, Json.writable_nat (Nat.lt_trans i.port.toNat_lt (by decide)),
      Json.writable_nat (Nat.lt_trans i.weight.toNat_lt (by decide)), .text _, .text _, .text _,
      List.forall_mem_nil _⟩)

theorem RetryConfig.writable_toDocument (c : RetryConfig) : Json.Writable c.toDocument := by
  have hcodes : ∀ n : UInt16, Json.Writable (.nat n.toNat) := fun n =>
    Json.writable_nat (Nat.lt_trans n.toNat_lt (by decide))
  refine .table ?_
  simp only [List.forall_mem_cons]
  exact ⟨Json.writable_nat (Nat.lt_trans c.maxRetries.toNat_lt (by decide)),
    Json.writable_map hcodes, Json.writable_nat c.initialBackoffMs.toNat_lt,
    Json.writable_nat c.maxBackoffMs.toNat_lt, List.forall_mem_nil _⟩

theorem RetryConfig.depth_toDocument_le (c : RetryConfig) : c.toDocument.depth ≤ 2 := by
  refine Document.depth_table_le_iff.2 ?_
  simp only [List.forall_mem_cons]
  exact ⟨Nat.zero_le _, Document.depth_list_le_iff.2 (List.forall_mem_map.2 fun _ _ => Nat.zero_le _),
    Nat.zero_le _, Nat.zero_le _, List.forall_mem_nil _⟩

theorem ServiceList.writable_toDocument (s : ServiceList) : Json.Writable (toDocument s) :=
  .table (List.forall_mem_map.2 fun _ _ => Json.writable_map Instance.writable_toDocument)

theorem ServiceList.depth_toDocument_le (s : ServiceList) : (toDocument s).depth ≤ 3 :=
  Document.depth_table_le_iff.2 (List.forall_mem_map.2 fun _ _ =>
    Document.depth_list_le_iff.2 (List.forall_mem_map.2 fun i _ => by
      simp [Instance.toDocument, Document.depth, Document.depth.depthOfEntries, Document.nat]))

namespace GatewayConfig

theorem writable_toDocument (c : GatewayConfig) : Json.Writable c.toDocument := by
  have hlocality : Json.Writable (.ofOption Locality.toDocument c.locality) := by
    cases c.locality with
    | none => exact .null
    | some l =>
      refine .table ?_
      simp only [List.forall_mem_cons]
      exact ⟨.text _, .text _, List.forall_mem_nil _⟩
  refine .table ?_
  simp only [List.forall_mem_cons]
  exact ⟨.text _, .text _, .text _, hlocality, .text _, Json.writable_nat c.cacheTtl.toNat_lt,
    Json.writable_nat c.watchInterval.toNat_lt, Json.writable_nat c.requestTimeout.toNat_lt,
    Json.writable_nat c.connectTimeout.toNat_lt, c.retry.writable_toDocument, .text _,
    ServiceList.writable_toDocument c.registry, Json.writable_map RouteConfig.writable_toDocument,
    List.forall_mem_nil _⟩

/-- A configuration that was read from a document that nests less deep than the limit of a text is
written as such a document. -/
theorem depth_lt_of_ofDocument {d : Document} {c : GatewayConfig} (hd : Json.Admits Json.depthLimit d)
    (h : ofDocument d = .ok c) : c.toDocument.depth < Json.depthLimit := by
  have hroutes : ∀ r ∈ c.routes, r.toDocument.depth ≤ 125 := by
    simp only [ofDocument, bind_eq_ok_iff] at h
    obtain ⟨fields, hfields, listen, -, version, -, versionHeader, -, locality, -, matchPolicy, -,
      cacheTtl, -, watchInterval, -, requestTimeout, -, connectTimeout, -, retry, -, errorBody, -,
      registry, -, routes, hroutes, h⟩ := h
    cases h
    intro r (hr : r ∈ routes)
    rcases Document.exists_of_withDefault hd.1 hfields hroutes with rfl | ⟨list, hlist, hroutes⟩
    · cases hr
    · obtain ⟨item, hitem, hr⟩ := Document.exists_of_mem_decodeList hlist.1 hroutes r hr
      have hlimit := hd.2
      have hout := hlist.2
      have hin := hitem.2
      rw [Json.depthLimit] at hlimit
      exact RouteConfig.depth_le_of_ofDocument (n := 61) hitem.1 hr (by omega)
  have hlocality : (Document.ofOption Locality.toDocument c.locality).depth ≤ 126 := by
    cases c.locality <;>
      simp [Document.ofOption, Locality.toDocument, Document.depth, Document.depth.depthOfEntries]
  have hretry : c.retry.toDocument.depth ≤ 126 := Nat.le_trans c.retry.depth_toDocument_le (by decide)
  have hregistry : (ServiceList.toDocument c.registry).depth ≤ 126 :=
    Nat.le_trans (ServiceList.depth_toDocument_le c.registry) (by decide)
  have hlist : (Document.list (c.routes.map RouteConfig.toDocument)).depth ≤ 126 :=
    Document.depth_list_le_iff.2 (List.forall_mem_map.2 hroutes)
  refine Nat.lt_succ_of_le (Document.depth_table_le_iff.2 ?_)
  simp only [List.forall_mem_cons]
  exact ⟨Nat.zero_le _, Nat.zero_le _, Nat.zero_le _, hlocality, Nat.zero_le _, Nat.zero_le _,
    Nat.zero_le _, Nat.zero_le _, Nat.zero_le _, hretry, Nat.zero_le _, hregistry, hlist,
    List.forall_mem_nil _⟩

/-- A text in JSON holds a configuration exactly if the document in it does. -/
theorem ofText_json_eq_ok_iff {text : String} {c : GatewayConfig} :
    ofText (some "json") text = .ok c ↔ ∃ d, Json.scan text = .ok d ∧ ofDocument d = .ok c := by
  simp only [← toOption_eq_some_iff, ← Option.bind_eq_some_iff]
  unfold ofText
  cases (Json.scan text).toOption.bind fun d => (ofDocument d).toOption with
  | none => simp [Except.toOption]
  | some c' => simp [Except.toOption]

/-- What unknown fields hold does not matter, not even when nobody can take it. -/
theorem ofDocument_filter (entries : List (String × Document)) :
    ofDocument (.table (entries.filter fun e => fieldNames.contains e.1)) =
      ofDocument (.table entries) := by
  rw [ofDocument, ofDocument, Document.asRecord_filter]

/-- A configuration with what the check of each of its routes finds. -/
def withChecks (c : GatewayConfig) : GatewayConfig × List (Except RouteError RouteSpec) :=
  (c, c.routes.map RouteConfig.validate)

/-- A configuration survives a round trip: what is written for one that was read is read as the same
configuration, the routes of which pass or fail the check as before. This is so for documents, and for
texts in JSON. -/
theorem survives_round_trip :
    (∀ (d : Document) (c : GatewayConfig), ofDocument d = .ok c →
      (ofDocument c.toDocument).map withChecks = .ok c.withChecks) ∧
    (∀ (text : String) (c : GatewayConfig), ofText (some "json") text = .ok c →
      (ofText (some "json") (Json.render c.toDocument)).map withChecks = .ok c.withChecks) := by
  constructor
  · intro d c h
    rw [ofDocument_toDocument (isValid_of_ofDocument h)]
    rfl
  · intro text c h
    obtain ⟨d, hd, hc⟩ := ofText_json_eq_ok_iff.1 h
    have hscan : Json.scan (Json.render c.toDocument) = .ok c.toDocument :=
      Json.scan_render c.writable_toDocument (depth_lt_of_ofDocument (Json.admits_of_scan hd) hc)
    rw [ofText_json_eq_ok_iff.2 ⟨_, hscan, ofDocument_toDocument (isValid_of_ofDocument hc)⟩]
    rfl

/-- Where services are in the example, unsorted, with an instance that is written as a list. -/
def sampleRegistry : Document :=
  .table [("web", .list [.list [.text "10.0.0.2", .int 80]]), ("api", .list [])]

/-- The routes of the example: one with an unknown field and a nested expression, of which one part is
written as a list. -/
def sampleRoutes : Document :=
  .list
    [.table
      [("matchType", .text "expr"), ("note", .null),
        ("expr", .table
          [("and", .list
            [.table [("or", .list [.list [.text "header", .text "say \"hi\""]])]])])]]

/-- A configuration of which most fields are left out and one is unknown. -/
def sampleDocument : Document :=
  .table
    [("listen", .text "[fe80::1%3]:8080"), ("comment", .real "1.5"),
      ("locality", .list [.text "north", .text "one"]), ("retry", .list [.int 2, .list [.int 502]]),
      ("registry", sampleRegistry), ("routes", sampleRoutes)]

/-- What is read from it. -/
def sampleConfig : GatewayConfig :=
  { listen := { host := .v6 [0xfe80, 0, 0, 0, 0, 0, 0, 1], port := 8080, scope := 3 }
    locality := some ⟨"north", "one"⟩
    retry := { maxRetries := 2, retryableStatusCodes := [502] }
    registry := [("api", []), ("web", [{ address := "10.0.0.2", port := 80 }])]
    routes :=
      [{ matchType := "expr"
         expr := some { all := [{ any := [{ source := "header", key := "say \"hi\"" }] }] } }] }

/-- A text with a route that is written as a list. -/
def sampleText : String :=
  "\x7b\"routes\":[[\"exact\",\"/a\"]],\"note\":0\x7d"

theorem survives_round_trip_sample :
    ofDocument sampleDocument = .ok sampleConfig ∧
      (ofDocument sampleConfig.toDocument).map withChecks = .ok sampleConfig.withChecks ∧
    ofText (some "json") sampleText = .ok { routes := [{ matchType := "exact", path := "/a" }] } ∧
      (ofText (some "json") (Json.render
        (toDocument { routes := [{ matchType := "exact", path := "/a" }] }))).map withChecks =
          .ok (withChecks { routes := [{ matchType := "exact", path := "/a" }] }) := by
  have hlisten : addressOfDocument (.text "[fe80::1%3]:8080") = .ok sampleConfig.listen := by cbv
  have hlocality : Document.asOptional Locality.ofDocument (.list [.text "north", .text "one"]) =
      .ok sampleConfig.locality := by cbv
  have hretry : RetryConfig.ofDocument (.list [.int 2, .list [.int 502]]) =
      .ok sampleConfig.retry := by cbv
  have hregistry : ServiceList.ofDocument sampleRegistry = .ok sampleConfig.registry := by cbv
  have hroutes : routesOfDocument sampleRoutes = .ok sampleConfig.routes := by cbv
  have hdocument : ofDocument sampleDocument = .ok sampleConfig := by
    simp [ofDocument, sampleDocument, Document.asRecord, Document.declaredEntries, fieldNames,
      Record.word, hlisten, hlocality, hretry, hregistry, hroutes]
    simp [sampleConfig]
  have hscan : Json.scan sampleText =
      .ok (.table [("routes", .list [.list [.text "exact", .text "/a"]]), ("note", .int 0)]) := by cbv
  have htextRoutes : routesOfDocument (.list [.list [.text "exact", .text "/a"]]) =
      .ok [{ matchType := "exact", path := "/a" }] := by cbv
  have htext : ofText (some "json") sampleText =
      .ok { routes := [{ matchType := "exact", path := "/a" }] } :=
    ofText_json_eq_ok_iff.2 ⟨_, hscan, by
      simp [ofDocument, Document.asRecord, Document.declaredEntries, fieldNames, Record.word, htextRoutes]⟩
  exact ⟨hdocument, survives_round_trip.1 _ _ hdocument, htext, survives_round_trip.2 _ _ htext⟩

end GatewayConfig

end TrafficGateway
