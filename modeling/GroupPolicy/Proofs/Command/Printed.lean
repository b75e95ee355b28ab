import GroupPolicy.Command.Run
import GroupPolicy.Proofs.Acl.Documents
import GroupPolicy.Proofs.Document.KeyOrder
import GroupPolicy.Proofs.Policy.Documents
import GroupPolicy.Proofs.Policy.Sample
import GroupPolicy.Proofs.Render.Installed

namespace GroupPolicy

namespace Renderer

variable {c : Context} {settings : Settings} {r : Renderer} {shown : Location → Option Endpoint}

theorem Shows.regroup (h : r.Shows c settings shown) : (r.regroup c).1.Shows c settings shown where
  settings_eq := h.settings_eq
  current_eq := (r.grouping.current_refresh_refresh c).trans h.current_eq
  unreachable_eq := h.unreachable_eq
  acls_eq := h.acls_eq
  isAddressed := h.isAddressed
  bindings_eq := h.bindings_eq

end Renderer

namespace Command

variable {c : Context} {settings : Settings} {address : Option String} {l : Location} {e : Endpoint}
  {k : EndpointKey} {a : String}

/-- Whether an endpoint is to be rendered: it has policies, and the address that is asked for. -/
def IsSelected (c : Context) (address : Option String) (k : EndpointKey) : Prop :=
  k ∈ c.rendererEndpoints ∧ ∀ a, address = some a → k.address = a

theorem mem_selected_iff : k ∈ selected c address ↔ IsSelected c address k := by
  rw [selected, List.mem_filter, IsSelected]
  cases address with
  | none => simp
  | some a =>
    rw [Option.all_some, beq_iff_eq]
    exact and_congr_right fun _ => ⟨fun h _ ha => h ▸ Option.some.inj ha, fun h => (h a rfl).symm⟩

theorem selected_ascending (c : Context) (address : Option String) :
    (selected c address).Pairwise fun j k => compare j k = .lt :=
  c.table.rows.ascending_keys.filter _

/-- Whether an endpoint writes to an interface when it is rendered: it is selected and known, it is
attached there, and the interface is in use. -/
structure WritesTo (c : Context) (settings : Settings) (address : Option String) (l : Location)
    (e : Endpoint) : Prop where
  isSelected : IsSelected c address e.key
  known : c.endpoint? e.key = some e
  located : e.location? = some l
  inUse : settings.excludes l = false

/-- Whether an endpoint decides what an interface ends up with: of those that write to it this one has
the greatest key. -/
structure Prevails (c : Context) (settings : Settings) (address : Option String) (l : Location)
    (e : Endpoint) : Prop extends WritesTo c settings address l e where
  greatest : ∀ e', WritesTo c settings address l e' → compare e'.key e.key ≠ .gt

theorem writesTo_iff_mem : WritesTo c settings address l e ↔
    e ∈ (selected c address).filterMap (c.renderedOn? settings l) := by
  simp only [List.mem_filterMap, mem_selected_iff, Context.renderedOn?_eq_some_iff]
  constructor
  · rintro ⟨hselected, hknown, hlocated, hinUse⟩
    exact ⟨e.key, hselected, hknown, hlocated, hinUse⟩
  · rintro ⟨k, hselected, hknown, hlocated, hinUse⟩
    obtain rfl := Context.key_of_endpoint? hknown
    exact ⟨hselected, hknown, hlocated, hinUse⟩

/-- Endpoints are rendered by ascending key, so the last one on an interface prevails. -/
theorem prevails_iff_lastOn? :
    Prevails c settings address l e ↔ c.lastOn? settings (selected c address) l = some e := by
  have hascending : ((selected c address).filterMap (c.renderedOn? settings l)).Pairwise
      fun e e' => compareOn Endpoint.key e e' = .lt := by
    refine (selected_ascending c address).filterMap _ fun k k' hlt e he e' he' => ?_
    obtain ⟨hknown, -⟩ := Context.renderedOn?_eq_some_iff.mp he
    obtain ⟨hknown', -⟩ := Context.renderedOn?_eq_some_iff.mp he'
    rwa [compareOn, Context.key_of_endpoint? hknown, Context.key_of_endpoint? hknown']
  rw [Context.lastOn?, getLast?_eq_some_iff_of_ascending hascending]
  simp only [← writesTo_iff_mem]
  constructor
  · intro h
    exact ⟨h.toWritesTo, h.greatest⟩
  · rintro ⟨h, hgreatest⟩
    exact ⟨h, hgreatest⟩

theorem exists_prevails (h : WritesTo c settings address l e) :
    ∃ e', Prevails c settings address l e' := by
  have hne := List.ne_nil_of_mem (writesTo_iff_mem.mp h)
  exact ⟨_, prevails_iff_lastOn?.mpr (List.getLast?_eq_some_getLast hne)⟩

theorem value_entries {g : Grouping} {acl : AclSettings} {d : AclDirection}
    (h : c.endpoint? k = some e) :
    (c.entries g acl k d).value = .ok (c.listEntries g acl e d).value := by
  rw [Context.entries, h]

/-- The document of lists and bindings. -/
def listing (acls : List (AclTarget × Acl)) (bindings : List (Attachment × String)) : Value :=
  .object
    [("acls", .list (acls.map fun (target, l) =>
        .object (written "node" target.node ++ written "acl" l))),
      ("bindings", .list (bindings.map fun (place, name) =>
        .object (written "node" place.location.node ++ written "interface" place.location.interface ++
          written "direction" place.direction ++ written "acl_name" name)))]

theorem fits_listing (acls : List (AclTarget × Acl)) (bindings : List (Attachment × String)) :
    (listing acls bindings).Fits 9 := by
  apply Value.fits_object
  simp only [List.forall_mem_cons]
  refine ⟨Value.fits_list (List.forall_mem_map.mpr fun (target, l) _ => Value.fits_object ?_),
    Value.fits_list (List.forall_mem_map.mpr fun (place, name) _ => Value.fits_object ?_), nofun⟩
  · simp only [written, List.cons_append, List.nil_append, List.forall_mem_cons]
    exact ⟨trivial, Lossless.fits_encode l, nofun⟩
  · simp only [written, List.cons_append, List.nil_append, List.forall_mem_cons]
    exact ⟨trivial, trivial, (Lossless.fits_encode place.direction).mono (Nat.zero_le 6), trivial, nofun⟩

/-- What devices hold is written as a document with the entries of its records by name. -/
theorem output_eq (s : Device) : output s = (listing s.acls.toList s.bindings.toList).keyOrdered := rfl

theorem Request.isSpacing_layout (request : Request) : request.layout.IsSpacing := by
  unfold layout
  split
  · exact Json.Layout.isSpacing_pretty
  · exact Json.Layout.isSpacing_compact

/-- The text of what devices hold says what they hold. -/
theorem read_output (request : Request) (s : Device) :
    Json.read (Json.print request.layout (output s) ++ "\n") = ⟨output s, false⟩ := by
  have hfits : (output s).Fits 9 := by
    rw [output_eq]
    exact (Value.reorders_keyOrdered _).fits (fits_listing _ _)
  have hend : Json.IsSpacing "\n".toList := by simp [Json.IsSpacing, Json.isSpace]
  exact Json.read_print request.isSpacing_layout hfits (by decide) hend

theorem selected_eq_nil_iff : selected c address = [] ↔ ∀ k, ¬IsSelected c address k := by
  rw [List.eq_nil_iff_forall_not_mem]
  exact forall_congr' fun k => not_congr mem_selected_iff

theorem value_rendered_eq_error (h : ∀ k, ¬IsSelected c (some a) k) :
    (rendered settings c (some a)).value = .error (.noEndpoint a) := by
  unfold rendered
  rw [selected_eq_nil_iff.mpr h]

theorem exists_value_rendered (settings : Settings)
    (h : ∀ a, address = some a → ∃ k, IsSelected c address k) :
    ∃ r : Renderer, (rendered settings c address).value = .ok r.device ∧
      r.Shows c settings (c.lastOn? settings (selected c address)) := by
  have hshows := ((Renderer.shows_new c settings).regroup).updateAll (selected c address)
  simp only [Option.or_none] at hshows
  unfold rendered
  split
  next a hnil =>
    obtain ⟨k, hk⟩ := h a rfl
    exact absurd hk (selected_eq_nil_iff.mp hnil k)
  next => exact ⟨_, rfl, hshows⟩

section Devices

variable {r : Renderer} (h : r.Shows c settings (c.lastOn? settings (selected c address)))
include h

/-- Devices hold the lists of the endpoints that prevail, and no others. -/
theorem mem_acls_iff {t : AclTarget} {acl : Acl} : (t, acl) ∈ r.device.acls.toList ↔
    ∃ l e d es, Prevails c settings address l e ∧
      (c.entries (.ofContext c) settings.acl e.key d).value = .ok es ∧
      t = .ofLocation l d ∧ acl = .ofInterface l.interface d es := by
  rw [← SortedMap.get?_eq_some_iff, h.get?_acls_eq_some_iff]
  simp only [← prevails_iff_lastOn?]
  constructor
  · rintro ⟨l, d, e, rfl, he, rfl⟩
    exact ⟨l, e, d, _, he, value_entries he.known, rfl, rfl⟩
  · rintro ⟨l, e, d, es, he, hes, rfl, rfl⟩
    obtain rfl := Except.ok.inj ((value_entries he.known).symm.trans hes)
    exact ⟨l, d, e, rfl, he, rfl⟩

/-- Lists are bound in both directions where an endpoint prevails, and nowhere else. -/
theorem mem_bindings_iff {p : Attachment} {name : String} : (p, name) ∈ r.device.bindings.toList ↔
    (∃ e, Prevails c settings address p.location e) ∧
      name = aclName p.location.interface p.direction := by
  rw [← SortedMap.get?_eq_some_iff, h.get?_bindings_eq_some_iff]
  simp only [← prevails_iff_lastOn?]

end Devices

section Runs

variable {files : Files} {args : List String} {request : Request} {directives : List LogDirective}
  {snapshot : Snapshot}

theorem value_render (hsettings : loadSettings files request.settings = .ok settings)
    (hsnapshot : Snapshot.load files request.snapshot = .ok snapshot) :
    (render files request).value = (rendered settings snapshot.context request.endpoint).value := by
  simp only [render, hsettings, hsnapshot]

theorem run_of_error (hparse : parse args = .render request)
    (hdirectives : directives? request.logLevel = some directives) {failure : Failure}
    (h : (render files request).value = .error failure) :
    (run files args).exitCode = 1 ∧ (run files args).stdout = "" := by
  simp only [run, hparse, hdirectives, h, and_self]

theorem run_of_ok (hparse : parse args = .render request)
    (hdirectives : directives? request.logLevel = some directives) {device : Device}
    (h : (render files request).value = .ok device) :
    (run files args).exitCode = 0 ∧
      (run files args).stdout = Json.print request.layout (output device) ++ "\n" := by
  simp only [run, hparse, hdirectives, h, and_self]

/-- A run whose settings and snapshot can be read fails, without printing anything, exactly if an address
is asked for that no endpoint to render has. Otherwise it prints a document that lists, each in strictly
ascending order, the two lists and the two bindings of every interface that a selected endpoint writes to,
and nothing else. The entries of the lists are those of the endpoint with the greatest key that writes to
the interface. Whichever layout is asked for, the document is read back from the text, and it differs from
the plain one only in that the entries of its records stand by name. -/
theorem run_prints (hparse : parse args = .render request)
    (hdirectives : directives? request.logLevel = some directives)
    (hsettings : loadSettings files request.settings = .ok settings)
    (hsnapshot : Snapshot.load files request.snapshot = .ok snapshot) :
    let c := snapshot.context
    let outcome := run files args
    (outcome.exitCode ≠ 0 ↔
        ∃ a, request.endpoint = some a ∧ ∀ k ∈ c.rendererEndpoints, k.address ≠ a) ∧
      (outcome.exitCode ≠ 0 → outcome.stdout = "") ∧
      (outcome.exitCode = 0 → ∃ acls bindings printed,
        outcome.stdout = Json.print request.layout printed ++ "\n" ∧
        Json.read outcome.stdout = ⟨printed, false⟩ ∧
        (listing acls bindings).Reorders printed ∧ printed.IsByName ∧
        acls.Pairwise (fun x y => compare x.1 y.1 = .lt) ∧
        bindings.Pairwise (fun x y => compare x.1 y.1 = .lt) ∧
        (∀ t acl, (t, acl) ∈ acls ↔ ∃ l e d es, Prevails c settings request.endpoint l e ∧
          (c.entries (.ofContext c) settings.acl e.key d).value = .ok es ∧
          t = .ofLocation l d ∧ acl = .ofInterface l.interface d es) ∧
        (∀ p name, (p, name) ∈ bindings ↔
          (∃ e, Prevails c settings request.endpoint p.location e) ∧
          name = aclName p.location.interface p.direction) ∧
        ∀ l e, WritesTo c settings request.endpoint l e →
          ∃ e', Prevails c settings request.endpoint l e') := by
  intro c outcome
  by_cases hmissing : ∃ a, request.endpoint = some a ∧ ∀ k ∈ c.rendererEndpoints, k.address ≠ a
  · obtain ⟨a, ha, hnone⟩ := hmissing
    have hunselected (k : EndpointKey) : ¬IsSelected c (some a) k := fun h => hnone k h.1 (h.2 a rfl)
    have hrender : (render files request).value = .error (.noEndpoint a) := by
      rw [value_render hsettings hsnapshot, ha]
      exact value_rendered_eq_error hunselected
    obtain ⟨hcode, hstdout⟩ := run_of_error hparse hdirectives hrender
    have hfails : outcome.exitCode ≠ 0 := by
      rw [hcode]
      decide
    exact ⟨iff_of_true hfails ⟨a, ha, hnone⟩, fun _ => hstdout, fun h => absurd h hfails⟩
  · have hselected (a : String) (ha : request.endpoint = some a) :
        ∃ k, IsSelected c request.endpoint k := by
      by_contra hnone
      refine hmissing ⟨a, ha, fun k hk haddress => hnone ⟨k, hk, fun b hb => ?_⟩⟩
      exact haddress.trans (Option.some.inj (ha.symm.trans hb))
    obtain ⟨r, hrendered, hshows⟩ := exists_value_rendered settings hselected
    obtain ⟨hcode, hstdout⟩ := run_of_ok hparse hdirectives
      ((value_render hsettings hsnapshot).trans hrendered)
    have hread : Json.read outcome.stdout = ⟨output r.device, false⟩ := by
      rw [hstdout]
      exact read_output request r.device
    refine ⟨iff_of_false (fun h => h hcode) hmissing, fun h => absurd hcode h, fun _ => ?_⟩
    exact ⟨r.device.acls.toList, r.device.bindings.toList, output r.device, hstdout, hread,
      Value.reorders_keyOrdered _, Value.isByName_keyOrdered _, r.device.acls.sorted,
      r.device.bindings.sorted, fun _ _ => mem_acls_iff hshows, fun _ _ => mem_bindings_iff hshows,
      fun _ _ => exists_prevails⟩

end Runs

/-- A policy in which two servers on one interface let a client in. A third endpoint has a policy, too,
but nothing else is known of it. -/
def sharedSnapshot : Snapshot :=
  Sample.snapshot [Sample.subnet]
    [Sample.row "10.0.0.1" "10.0.0.9" "http" .provider, Sample.row "10.0.0.2" "10.0.0.9" "ssh" .provider,
      Sample.row "10.0.0.7" "10.0.0.9" "http" .provider]

/-- Files with the snapshot among them, and nothing else. -/
def sharedFiles : Files := fun path =>
  if path = "policy.json" then .ok sharedSnapshot.json else .error .missing

theorem load_sharedFiles : Snapshot.load sharedFiles "policy.json" = .ok sharedSnapshot := by
  have hformat : Format.ofPath "policy.json" = .json := by decide +kernel
  rw [Snapshot.load, sharedFiles, if_pos rfl, hformat]
  exact sharedSnapshot.parse_json

theorem prevails_shared : Prevails sharedSnapshot.context {} none ⟨"node", "tap0"⟩
    (Sample.endpoint "10.0.0.2" "tap0") := by
  have howners : sharedSnapshot.context.rendererEndpoints =
      [Sample.key "10.0.0.1", Sample.key "10.0.0.2", Sample.key "10.0.0.7"] := by decide +kernel
  have hunknown : sharedSnapshot.context.endpoint? (Sample.key "10.0.0.7") = none := by decide +kernel
  refine ⟨⟨⟨?_, nofun⟩, by decide +kernel, by decide +kernel, rfl⟩, fun e' h => ?_⟩
  · rw [howners]
    exact List.mem_cons_of_mem _ List.mem_cons_self
  · obtain ⟨⟨howner, -⟩, hknown, -, -⟩ := h
    simp only [howners, List.mem_cons, List.not_mem_nil, or_false] at howner
    rcases howner with hkey | hkey | hkey
    · rw [hkey]
      decide +kernel
    · rw [hkey]
      decide +kernel
    · rw [hkey, hunknown] at hknown
      cases hknown

theorem run_prints_shared :
    parse ["-s", "policy.json"] = .render { snapshot := "policy.json" } ∧
      directives? "info" = some [{ level := .info }] ∧ loadSettings sharedFiles none = .ok {} ∧
      Snapshot.load sharedFiles "policy.json" = .ok sharedSnapshot ∧
      (run sharedFiles ["-s", "policy.json"]).exitCode = 0 ∧ ∃ acls bindings printed es,
        Json.read (run sharedFiles ["-s", "policy.json"]).stdout = ⟨printed, false⟩ ∧
        (listing acls bindings).Reorders printed ∧
        (sharedSnapshot.context.entries (.ofContext sharedSnapshot.context) {}
          (Sample.key "10.0.0.2") .ingress).value = .ok es ∧
        (⟨"node", "tap0INGRESS"⟩, .ofInterface "tap0" .ingress es) ∈ acls := by
  have hparse : parse ["-s", "policy.json"] = .render { snapshot := "policy.json" } := by
    decide +kernel
  have hdirectives : directives? "info" = some [{ level := .info }] := by decide +kernel
  have hsettings : loadSettings sharedFiles none = .ok {} := rfl
  obtain ⟨hfails, -, hprints⟩ := run_prints hparse hdirectives hsettings load_sharedFiles
  have hcode : (run sharedFiles ["-s", "policy.json"]).exitCode = 0 := by
    by_contra h
    obtain ⟨a, ha, -⟩ := hfails.mp h
    cases ha
  obtain ⟨acls, bindings, printed, -, hread, hlisting, -, -, -, hacls, -, -⟩ := hprints hcode
  obtain ⟨es, hes⟩ : ∃ es, (sharedSnapshot.context.entries (.ofContext sharedSnapshot.context) {}
      (Sample.key "10.0.0.2") .ingress).value = .ok es := ⟨_, value_entries prevails_shared.known⟩
  refine ⟨hparse, hdirectives, hsettings, load_sharedFiles, hcode, acls, bindings, printed, es, hread,
    hlisting, hes, (hacls _ _).mpr ?_⟩
  exact ⟨⟨"node", "tap0"⟩, Sample.endpoint "10.0.0.2" "tap0", .ingress, es, prevails_shared, hes, rfl, rfl⟩

end Command

end GroupPolicy
