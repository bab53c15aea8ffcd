import TrafficGateway.Config.Settings
import TrafficGateway.Proofs.Dict
import TrafficGateway.Proofs.Document.Decode
import TrafficGateway.Proofs.Http.Address

/-!
# Configurations that are written and read again

Everything that a configuration consists of is read from its written form, field by field. Of most
records this is true whatever they hold. Of an address it is true if it is valid, and of the services if
they are sorted by name, each once; so are those of every configuration that was read
(`GatewayConfig.isValid_of_ofDocument`).

## Main definitions

* `ServiceList.IsSorted`: services are sorted by name, each once.
* `GatewayConfig.IsValid`: the address is valid and the services are sorted.

## Main statements

* `ExprConfig.ofDocument_toDocument`, `RouteConfig.ofDocument_toDocument`: expressions and routes are
  read from their written forms.
* `GatewayConfig.ofDocument_toDocument`: so is a valid configuration.
-/

namespace TrafficGateway

/-! ## Localities and instances -/

theorem Locality.ofDocument_toDocument (l : Locality) : Locality.ofDocument l.toDocument = .ok l := by
  rw [Locality.ofDocument, Locality.toDocument,
    Document.asRecord_table (by simp [fieldNames]) (by simp)]
  simp [Document.asText]

theorem Instance.ofDocument_toDocument (i : Instance) : Instance.ofDocument i.toDocument = .ok i := by
  rw [Instance.ofDocument, Instance.toDocument,
    Document.asRecord_table (by simp [fieldNames]) (by simp)]
  simp [Document.asText, Document.asNat_nat i.port.toNat_lt,
    Document.asNat_nat i.weight.toNat_lt]

/-! ## Expressions -/

namespace ExprConfig

mutual

/-- An expression is read again within any bound above the nesting depth of its written form. -/
theorem ofDocumentWithin_toDocument :
    ∀ (e : ExprConfig) {bound : Nat}, e.toDocument.depth < bound →
      ofDocumentWithin bound e.toDocument = .ok e
  | _, 0, hbound => absurd hbound (Nat.not_lt_zero _)
  | ⟨source, key, operator, value, all, any⟩, bound + 1, hbound => by
    have hdepth : Document.depth.depthOfItems (toDocuments all) < bound ∧
        Document.depth.depthOfItems (toDocuments any) < bound := by
      simp only [toDocument, Document.depth, Document.depth.depthOfEntries] at hbound
      omega
    have hall := decodeAll_toDocuments all hdepth.1
    have hany := decodeAll_toDocuments any hdepth.2
    rw [toDocument, ofDocumentWithin, Document.asRecord_table (by simp [fieldNames]) (by simp)]
    simp [Document.asText, Document.asList, hall, hany]

/-- Several expressions are read again within any bound above the depths of their written forms. -/
theorem decodeAll_toDocuments :
    ∀ (es : List ExprConfig) {bound : Nat},
      Document.depth.depthOfItems (toDocuments es) < bound →
        Document.decodeAll (ofDocumentWithin bound) (toDocuments es) = .ok es
  | [], _, _ => rfl
  | e :: es, bound, hbound => by
    rw [toDocuments, Document.depth.depthOfItems, Nat.max_lt] at hbound
    rw [toDocuments, Document.decodeAll, ofDocumentWithin_toDocument e hbound.1, ok_bind,
      decodeAll_toDocuments es hbound.2]
    rfl

end

theorem ofDocument_toDocument (e : ExprConfig) : ofDocument e.toDocument = .ok e :=
  ofDocumentWithin_toDocument e (Nat.lt_succ_self _)

theorem isNull_toDocument (e : ExprConfig) : e.toDocument.isNull = false := by
  cases e
  rw [toDocument]
  rfl

end ExprConfig

/-! ## Routes -/

theorem TargetConfig.ofDocument_toDocument (t : TargetConfig) :
    TargetConfig.ofDocument t.toDocument = .ok t := by
  rw [TargetConfig.ofDocument, TargetConfig.toDocument,
    Document.asRecord_table (by simp [fieldNames]) (by simp)]
  simp [Document.asText, Document.asNat_nat t.weight.toNat_lt]

theorem MockContent.ofDocument_toDocument (m : MockContent) :
    MockContent.ofDocument m.toDocument = .ok m := by
  rw [MockContent.ofDocument, MockContent.toDocument,
    Document.asRecord_table (by simp [fieldNames]) (by simp)]
  simp [Document.asText, Document.asNat_nat m.statusCode.toNat_lt]

namespace RouteConfig

/-- A route is read again from what is written, in which an absent expression and an absent answer are
left out. -/
theorem ofDocument_toDocument (r : RouteConfig) : ofDocument r.toDocument = .ok r := by
  obtain ⟨matchType, path, expr, priority, targetType, serviceName, targets, policy, hashHeader,
    pathRule, replacePath, mock⟩ := r
  have htargets : Document.decodeAll TargetConfig.ofDocument (targets.map TargetConfig.toDocument) =
      .ok targets :=
    Document.decodeAll_map fun t _ => t.ofDocument_toDocument
  have hpriority : Document.asInt (UInt32.size / 2) (.int priority.toInt) = .ok priority.toInt :=
    Document.asInt_int priority.minValue_le_toInt priority.toInt_lt
  have hexpr : ∀ e, Document.asOptional ExprConfig.ofDocument e.toDocument = .ok (some e) := fun e =>
    Document.asOptional_eq_some e.isNull_toDocument e.ofDocument_toDocument
  have hmock : ∀ m, Document.asOptional MockContent.ofDocument m.toDocument = .ok (some m) := fun m =>
    Document.asOptional_eq_some rfl m.ofDocument_toDocument
  rw [ofDocument, toDocument, Document.asRecord_ofFields (by simp [fieldNames]) (by simp)]
  cases expr <;> cases mock <;>
    simp [Document.asText, Document.asList, htargets, hpriority, hexpr, hmock]

end RouteConfig

/-! ## Retries -/

/-- A number of 64 bits is read again. -/
theorem asNat_word (n : UInt64) :
    ((Document.nat n.toNat).asNat UInt64.size).map UInt64.ofNat = .ok n := by
  rw [Document.asNat_nat n.toNat_lt]
  exact congrArg Except.ok n.ofNat_toNat

namespace RetryConfig

theorem codesOfDocument_list (codes : List UInt16) :
    codesOfDocument (.list (codes.map fun n => .nat n.toNat)) = .ok codes :=
  Document.decodeAll_map fun n _ => by
    rw [Document.asNat_nat n.toNat_lt]
    exact congrArg Except.ok n.ofNat_toNat

theorem ofDocument_toDocument (c : RetryConfig) : ofDocument c.toDocument = .ok c := by
  have hretries : ((Document.nat c.maxRetries.toNat).asNat UInt32.size).map UInt32.ofNat =
      .ok c.maxRetries := by
    rw [Document.asNat_nat c.maxRetries.toNat_lt]
    exact congrArg Except.ok c.maxRetries.ofNat_toNat
  rw [ofDocument, toDocument, Document.asRecord_table (by simp [fieldNames]) (by simp)]
  simp [Record.word, hretries, codesOfDocument_list, asNat_word]

end RetryConfig

/-! ## Services -/

namespace ServiceList

/-- Services are sorted by name, each once. -/
def IsSorted (s : ServiceList) : Prop :=
  (s.map Prod.fst).Nodup ∧ s.Pairwise fun a b => a.1 ≤ b.1

/-- Entries with new keys come behind those of a dictionary. -/
theorem foldl_insert_entries {es : List (String × List Instance)} {d : Dict String (List Instance)}
    (hdistinct : (d.entries ++ es).map Prod.fst |>.Nodup) :
    (es.foldl (fun d e => Dict.insert d e.1 e.2) d).entries = d.entries ++ es := by
  induction es generalizing d with
  | nil => simp
  | cons e es ih =>
    have hnew : e.1 ∉ d.entries.map Prod.fst := by
      rw [List.map_append, List.map_cons] at hdistinct
      exact fun hmem => (List.nodup_append.1 hdistinct).2.2 _ hmem _ List.mem_cons_self rfl
    have hinsert : (d.insert e.1 e.2).entries = d.entries ++ [e] := by
      rw [Dict.insert, dif_neg hnew]
    rw [List.foldl_cons, ih (by rwa [hinsert, List.append_assoc]), hinsert, List.append_assoc]
    rfl

theorem isSorted_ofEntries (es : List (String × List Instance)) : IsSorted (ofEntries es) := by
  constructor
  · exact ((List.mergeSort_perm _ _).map Prod.fst).nodup_iff.2 (Dict.distinct _)
  · have htrans : ∀ a b c : String × List Instance, decide (a.1 ≤ b.1) → decide (b.1 ≤ c.1) →
        decide (a.1 ≤ c.1) := fun a b c hab hbc => by
      simp only [decide_eq_true_eq] at hab hbc ⊢
      exact String.le_trans hab hbc
    have htotal : ∀ a b : String × List Instance, decide (a.1 ≤ b.1) || decide (b.1 ≤ a.1) :=
      fun a b => by simpa using String.le_total a.1 b.1
    exact (List.pairwise_mergeSort htrans htotal _).imp fun h => by simpa using h

theorem ofEntries_eq_self {s : ServiceList} (h : IsSorted s) : ofEntries s = s := by
  have hentries : (s.foldl (fun d e => Dict.insert d e.1 e.2) Dict.empty).entries = s :=
    foldl_insert_entries h.1
  -- Distinct keys are appended one after the other, and are in order already.
  rw [ofEntries, hentries]
  exact List.mergeSort_of_pairwise (h.2.imp fun h => by simpa using h)

/-- Services that are sorted by name are read again. -/
theorem ofDocument_toDocument {s : ServiceList} (h : IsSorted s) :
    ofDocument (toDocument s) = .ok s := by
  have hinstances : ∀ is : List Instance,
      Document.decodeAll Instance.ofDocument (is.map Instance.toDocument) = .ok is := fun is =>
    Document.decodeAll_map fun i _ => i.ofDocument_toDocument
  have hentries : (s.map fun e => (e.1, Document.list (e.2.map Instance.toDocument))).mapM
      (fun e => do return (e.1, ← Document.decodeAll Instance.ofDocument (← e.2.asList))) =
        Except.ok s :=
    mapM_map_eq_ok fun e _ => by
      simp only [Document.asList, ok_bind, hinstances]
      rfl
  simp only [ofDocument, toDocument, Document.asEntries, ok_bind, hentries]
  exact congrArg Except.ok (ofEntries_eq_self h)

theorem isSorted_of_ofDocument {d : Document} {s : ServiceList} (h : ofDocument d = .ok s) :
    IsSorted s := by
  obtain ⟨entries, -, h⟩ := bind_eq_ok_iff.1 h
  obtain ⟨es, -, h⟩ := bind_eq_ok_iff.1 h
  cases h
  exact isSorted_ofEntries es

end ServiceList

/-! ## Gateways -/

namespace GatewayConfig

/-- What every configuration that is read satisfies: the address has a text and the services are sorted
by name. -/
structure IsValid (c : GatewayConfig) : Prop where
  listen : c.listen.IsValid
  registry : ServiceList.IsSorted c.registry

theorem addressOfDocument_render {a : SocketAddress} (h : a.IsValid) :
    addressOfDocument (.text a.render) = .ok a := by
  simp only [addressOfDocument, Document.asText, ok_bind, SocketAddress.read_render h]
  rfl

theorem isValid_of_addressOfDocument {d : Document} {a : SocketAddress}
    (h : addressOfDocument d = .ok a) : a.IsValid := by
  obtain ⟨text, -, h⟩ := bind_eq_ok_iff.1 h
  split at h
  · next hread =>
    cases h
    exact SocketAddress.isValid_of_read hread
  · cases h

theorem policyOfDocument_name (p : MatchPolicy) : policyOfDocument (.text p.name) = .ok p := by
  cases p <;> rfl

theorem routesOfDocument_list (routes : List RouteConfig) :
    routesOfDocument (.list (routes.map RouteConfig.toDocument)) = .ok routes :=
  Document.decodeAll_map fun r _ => r.ofDocument_toDocument

/-- A valid configuration is read again from its written form. -/
theorem ofDocument_toDocument {c : GatewayConfig} (h : c.IsValid) :
    ofDocument c.toDocument = .ok c := by
  have hlocality : Document.asOptional Locality.ofDocument (.ofOption Locality.toDocument c.locality) =
      .ok c.locality :=
    Document.asOptional_ofOption (fun _ => rfl) Locality.ofDocument_toDocument c.locality
  rw [ofDocument, toDocument, Document.asRecord_table (by simp [fieldNames]) (by simp)]
  simp [Record.word, Document.asText, hlocality, asNat_word,
    addressOfDocument_render h.listen, policyOfDocument_name, routesOfDocument_list,
    RetryConfig.ofDocument_toDocument, ServiceList.ofDocument_toDocument h.registry]

/-- A configuration that is read is valid. -/
theorem isValid_of_ofDocument {d : Document} {c : GatewayConfig} (h : ofDocument d = .ok c) :
    c.IsValid := by
  simp only [ofDocument, bind_eq_ok_iff] at h
  obtain ⟨r, -, listen, hlisten, version, -, versionHeader, -, locality, -, matchPolicy, -,
    cacheTtl, -, watchInterval, -, requestTimeout, -, connectTimeout, -, retry, -, errorBody, -,
    registry, hregistry, routes, -, h⟩ := h
  cases h
  have hdefault : SocketAddress.IsValid { host := .v4 [0, 0, 0, 0], port := 8080 } :=
    ⟨⟨rfl, by decide⟩, by decide, by decide, fun _ _ => rfl⟩
  exact ⟨Record.of_withDefault hlisten hdefault fun _ => isValid_of_addressOfDocument,
    Record.of_withDefault hregistry ⟨.nil, .nil⟩ fun _ => ServiceList.isSorted_of_ofDocument⟩

end GatewayConfig

end TrafficGateway
