import AccessLog.Plan.Compiler

/-!
What the two lines may show. A request line is a function of the request, and a response line does
not see the headers, the version and the addresses of the request. `value_of_alike` goes through the
tokens of a phase; a plan adds the banner and the connector, which tell nothing else.
-/
namespace AccessLog

/-- Contexts that agree on everything that a line of the phase may show. -/
inductive Context.Alike : Phase → Context → Context → Prop
  | request {x y : Context} (request : x.request = y.request) : Alike .request x y
  | response {x y : Context} (method : x.request.method = y.request.method)
      (url : x.request.url = y.request.url) (scheme : x.request.scheme = y.request.scheme)
      (response : x.response = y.response) (error : x.error = y.error)
      (start : x.start = y.start) (outcome : x.outcome = y.outcome) : Alike .response x y

variable {phase : Phase} {x y : Context}

theorem Context.Alike.scheme_eq (h : Alike phase x y) : x.request.scheme = y.request.scheme := by
  cases h with
  | request hrequest => rw [hrequest]
  | response _ _ hscheme => exact hscheme

namespace Field

/-- A token of the phase has the same value in both. -/
theorem value_of_alike (moment : Moment) (h : Context.Alike phase x y) {t : Token}
    (ht : t ∈ Token.ofPhase phase) : value moment x t = value moment y t := by
  cases h with
  | request hrequest =>
    cases t with
    | incoming | date => rfl
    | method | url | remoteAddress | httpVersion | referrer | userAgent =>
      simp only [value, hrequest]
    | status | contentLength | responseTime => exact absurd ht (by decide)
  | response hmethod hurl hscheme hresponse herror hstart houtcome =>
    cases t with
    | incoming | date => rfl
    | method => simp only [value, hmethod]
    | url => simp only [value, hurl]
    | status | contentLength => simp only [value, hresponse, herror]
    | responseTime => simp only [value, hstart]
    | remoteAddress | httpVersion | referrer | userAgent => exact absurd ht (by decide)

end Field

namespace Plan

theorem mapM_congr {α : Type} {fields : List α} {f g : α → Except Fault String}
    (h : ∀ a ∈ fields, f a = g a) : fields.mapM f = fields.mapM g := by
  induction fields with
  | nil => rfl
  | cons a fields ih =>
    rw [List.mapM_cons, List.mapM_cons, h a List.mem_cons_self,
      ih fun b hb => h b (List.mem_cons_of_mem a hb)]

/-- The connector is the same, and with it all segments. -/
theorem patched_of_alike (p : Parts) (h : Context.Alike phase x y) :
    patched p phase x = patched p phase y := by
  cases h with
  | request => rfl
  | response _ _ _ hresponse herror _ houtcome =>
    have hmark : connectorText p.colors x = connectorText p.colors y := by
      simp only [connectorText, hresponse, herror, houtcome]
    cases hc : p.connector with
    | none => simp only [patched, hc]
    | some i => simp only [patched, hc, hmark]

/-- A plan whose fields tell nothing else tells nothing else. -/
theorem render_of_alike (p : Plan) (moment : Moment) (h : Context.Alike phase x y)
    (hfields : ∀ field ∈ p.fields phase, field moment x = field moment y) :
    p.render phase moment x = p.render phase moment y := by
  have hlabel : label p.toParts x = label p.toParts y := by
    simp only [label, h.scheme_eq]
  rw [render, render, mapM_congr hfields, hlabel, patched_of_alike p.toParts h]

end Plan

namespace Compiler

open Format (Item)

variable (c : Compiler)

theorem renderer_of_alike (moment : Moment) (h : Context.Alike phase x y) {t : Token}
    (ht : t ∈ Token.ofPhase phase) (bracketed : Bool) :
    c.renderer t bracketed moment x = c.renderer t bracketed moment y := by
  simp only [renderer, Field.value_of_alike moment h ht]

/-- The fields of a line are those of tokens that belong to it. -/
theorem exists_token_of_mem_fields {items : List Item} {field : Renderer}
    (h : field ∈ items.flatMap (c.fields phase)) :
    ∃ t ∈ Token.ofPhase phase, ∃ bracketed, field = c.renderer t bracketed := by
  obtain ⟨item, -, hfield⟩ := List.mem_flatMap.mp h
  cases item with
  | literal text => exact absurd hfield List.not_mem_nil
  | token t bracketed =>
    rw [fields] at hfield
    split at hfield
    · next ht => exact ⟨t, ht, bracketed, List.mem_singleton.mp hfield⟩
    · exact absurd hfield List.not_mem_nil

theorem compile_of_alike (f : Format) (moment : Moment) (h : Context.Alike phase x y) :
    (c.compile f).render phase moment x = (c.compile f).render phase moment y := by
  refine (c.compile f).render_of_alike moment h fun field hfield => ?_
  have hparts : (c.compile f).fields phase = f.items.flatMap (c.fields phase) := by
    cases phase <;> rfl
  rw [hparts] at hfield
  obtain ⟨t, ht, bracketed, rfl⟩ := c.exists_token_of_mem_fields hfield
  exact c.renderer_of_alike moment h ht bracketed

/-- A request line shows nothing of the response, the error, the start and the outcome. A response
line shows of the request its method, its address and its scheme, and so nothing of its headers, its
version and the two peers. -/
theorem phases_apart (format : String) (moment : Moment) (x y : Context) :
    (x.request = y.request →
      (c.build format).render .request moment x = (c.build format).render .request moment y) ∧
    (x.request.method = y.request.method → x.request.url = y.request.url →
      x.request.scheme = y.request.scheme → x.response = y.response → x.error = y.error →
      x.start = y.start → x.outcome = y.outcome →
      (c.build format).render .response moment x = (c.build format).render .response moment y) ∧
    (∀ headers versionMajor versionMinor peer legacyPeer,
      (c.build format).render .response moment { x with
        request := { x.request with headers, versionMajor, versionMinor, peer, legacyPeer } } =
      (c.build format).render .response moment x) := by
  refine ⟨fun hrequest => ?_, fun hmethod hurl hscheme hresponse herror hstart houtcome => ?_, ?_⟩
  · exact c.compile_of_alike _ moment (.request hrequest)
  · exact c.compile_of_alike _ moment
      (.response hmethod hurl hscheme hresponse herror hstart houtcome)
  · intro headers versionMajor versionMinor peer legacyPeer
    exact c.compile_of_alike _ moment (.response rfl rfl rfl rfl rfl rfl rfl)

/-- A visitor who is known by an address, in an exchange that goes well; the same visitor in one that
fails; and the first exchange again with a visitor of whom nothing is known. -/
theorem phases_apart_visitor :
    let c : Compiler := ⟨true, true, false⟩
    let moment : Moment := ⟨.finite false 0 0, ⟨⟨2024, 3, 5⟩, 9, 7, 2, 0, 0⟩⟩
    let format := ":incoming :method :remote-address :status"
    let visitor : Request := { method := "GET", url := "/", peer := some "10.0.0.5" }
    let stranger : Request := { method := "GET", url := "/" }
    let well : Context := { request := visitor, response := ⟨some (.code 200), []⟩ }
    let failed : Context := { request := visitor, error := some .untyped, outcome := some .close }
    let unknown : Context := { well with request := stranger }
    (well.request = failed.request ∧ well.response ≠ failed.response ∧
      (c.build format).render .request moment well =
        (c.build format).render .request moment failed) ∧
    (well.request.method = unknown.request.method ∧ well.request.url = unknown.request.url ∧
      well.request.scheme = unknown.request.scheme ∧
      well.request.clientAddress ≠ unknown.request.clientAddress ∧
      (c.build format).render .response moment well =
        (c.build format).render .response moment unknown) := by
  intro c moment format visitor stranger well failed unknown
  have hstatus : well.response ≠ failed.response := fun h => nomatch congrArg Response.status h
  have haddress : well.request.clientAddress ≠ unknown.request.clientAddress := by decide
  exact ⟨⟨rfl, hstatus, (c.phases_apart format moment well failed).1 rfl⟩, rfl, rfl, rfl, haddress,
    (c.phases_apart format moment well unknown).2.1 rfl rfl rfl rfl rfl rfl rfl⟩

end Compiler

end AccessLog
