import Companion.Generator

/-!
# Passes — requests and their plans

A class that can be served makes a `Request`; a request is served from the memo, or rendered under
a scope for which a token may be drawn.

* `Generator.request_ok_iff`: a request is made by a partial class whose parameters can be read, and
  is `Generator.asked` of the class and its parameters.
* `Request.Planned`: what the plan of a request can be, given the memo and the tokens drawn.
* `Request.planAll_snd`: for which requests of a list tokens are drawn.
* `Request.planned_of_mem_planAll`: the plans of a list of requests are of that sort, and there is
  one for each request, in the same order (`planAll_map_fst`).
-/

namespace Companion

theorem eq_ok_of_toOption {ε α : Type} {x : Except ε α} {a : α} (h : x.toOption = some a) :
    x = .ok a := by
  cases x with
  | error e => cases h
  | ok b =>
      cases h
      rfl

theorem exists_ok_of_isSome_toOption {ε α : Type} {x : Except ε α}
    (h : x.toOption.isSome = true) : ∃ a, x = .ok a := by
  obtain ⟨a, ha⟩ := Option.isSome_iff_exists.mp h
  exact ⟨a, eq_ok_of_toOption ha⟩

namespace Generator

variable {g : Generator} {s : Snapshot} {c : Candidate} {p : Parameters} {r : Request}

/-! ### Requests -/

/-- The request of a class that asks for `p`. -/
def asked (g : Generator) (c : Candidate) (p : Parameters) : Request where
  candidate := c
  parameters := p
  resolution := p.resolve g.settings.defaultBackingField g.contract
  key := ⟨g.contract, c.namespace, c.name, c.accessibility, p⟩

theorem request_ok_iff :
    g.request c = .ok r ↔
      c.isPartial = true ∧ ∃ p, Parameters.ofCandidate c g.marker = .ok p ∧ r = g.asked c p := by
  unfold request
  cases c.isPartial with
  | false => simp
  | true =>
      cases Parameters.ofCandidate c g.marker with
      | error d => simp
      | ok p => simp [asked, eq_comm]

theorem mem_requests_iff :
    r ∈ g.requests s ↔ ∃ c ∈ g.discover s, g.request c = .ok r := by
  simp only [requests, List.mem_filterMap]
  refine exists_congr fun c => and_congr_right fun _ => ?_
  cases g.request c <;> simp [Except.toOption]

/-- A request is `asked` of its own class and parameters. -/
theorem eq_asked_of_mem_requests (h : r ∈ g.requests s) :
    r.candidate ∈ g.discover s ∧ r = g.asked r.candidate r.parameters := by
  obtain ⟨c, hc, hr⟩ := mem_requests_iff.mp h
  obtain ⟨-, p, -, rfl⟩ := request_ok_iff.mp hr
  exact ⟨hc, rfl⟩

theorem namespace_eq_empty_iff (h : r ∈ g.requests s) :
    r.key.namespace = "" ↔ r.candidate.isGlobal = true := by
  rw [(eq_asked_of_mem_requests h).2]
  simp [asked, Candidate.isGlobal]

end Generator

/-! ### Tokens -/

namespace TokenSource

/-- The tokens drawn from `t` until `t'` is left of it. -/
def drawnUntil (t t' : TokenSource) : List String :=
  (List.range' t.drawn (t'.drawn - t.drawn)).map t.token

theorem mem_drawnUntil_iff {t t' : TokenSource} {token : String} :
    token ∈ t.drawnUntil t' ↔ ∃ i, t.drawn ≤ i ∧ i < t'.drawn ∧ t.token i = token := by
  simp only [drawnUntil, List.mem_map, List.mem_range'_1]
  refine exists_congr fun i => ?_
  constructor
  · rintro ⟨⟨h₁, h₂⟩, rfl⟩
    exact ⟨h₁, by omega, rfl⟩
  · rintro ⟨h₁, h₂, rfl⟩
    exact ⟨⟨h₁, by omega⟩, rfl⟩

end TokenSource

/-! ### Plans -/

namespace Request

variable {memo : Memo} {tokens : TokenSource} {r : Request} {plan : Plan}

/-- A plan that a request can have: its unit is in the memo; or it is not, and the unit is placed
in the class's namespace, or in one made from a token that was drawn. -/
inductive Planned (memo : Memo) (drawn : List String) (r : Request) : Plan → Prop where
  | reuse {u : SourceUnit} : memo.get? r.key = some u → Planned memo drawn r (.reuse u)
  | own : memo.get? r.key = none → r.candidate.isGlobal = false →
      Planned memo drawn r (.render (.own r.candidate.namespace))
  | global {token : String} : memo.get? r.key = none → r.candidate.isGlobal = true →
      token ∈ drawn → Planned memo drawn r (.render (.global (Scope.globalMark ++ token)))

theorem Planned.mono {drawn drawn' : List String} (h : Planned memo drawn r plan)
    (hd : ∀ token ∈ drawn, token ∈ drawn') : Planned memo drawn' r plan := by
  cases h with
  | reuse hu => exact .reuse hu
  | own hn hg => exact .own hn hg
  | global hn hg ht => exact .global hn hg (hd _ ht)

theorem plan_of_some {u : SourceUnit} (h : memo.get? r.key = some u) :
    r.plan memo tokens = (.reuse u, tokens) := by
  simp only [plan, h]

theorem plan_of_none_global (h : memo.get? r.key = none) (hg : r.candidate.isGlobal = true) :
    r.plan memo tokens =
      (.render (.global (Scope.globalMark ++ tokens.token tokens.drawn)), tokens.draw.2) := by
  simp only [plan, h, Scope.ofCandidate, if_pos hg, TokenSource.draw]

theorem plan_of_none_own (h : memo.get? r.key = none) (hg : r.candidate.isGlobal = false) :
    r.plan memo tokens = (.render (.own r.candidate.namespace), tokens) := by
  simp only [plan, h, Scope.ofCandidate, hg, Bool.false_eq_true, if_false]

/-- The plan of a request is one that it can have, with the tokens drawn for it; planning keeps the
stream of tokens, and draws only further ones. -/
theorem planned_plan (r : Request) (memo : Memo) (tokens : TokenSource) :
    Planned memo (tokens.drawnUntil (r.plan memo tokens).2) r (r.plan memo tokens).1 ∧
      (r.plan memo tokens).2.token = tokens.token ∧
      tokens.drawn ≤ (r.plan memo tokens).2.drawn := by
  cases hu : memo.get? r.key with
  | some u =>
      rw [plan_of_some hu]
      exact ⟨.reuse hu, rfl, Nat.le_refl _⟩
  | none =>
      cases hg : r.candidate.isGlobal with
      | true =>
          rw [plan_of_none_global hu hg]
          refine ⟨.global hu hg (TokenSource.mem_drawnUntil_iff.mpr ?_), rfl, Nat.le_succ _⟩
          exact ⟨tokens.drawn, Nat.le_refl _, Nat.lt_succ_self _, rfl⟩
      | false =>
          rw [plan_of_none_own hu hg]
          exact ⟨.own hu hg, rfl, Nat.le_refl _⟩

theorem planAll_map_fst (memo : Memo) (tokens : TokenSource) (rs : List Request) :
    (planAll memo tokens rs).1.map Prod.fst = rs := by
  induction rs generalizing tokens with
  | nil => rfl
  | cons r rs ih => simp [planAll, ih]

/-- Whether a token is drawn for the request: its class is global, and its unit not remembered. -/
def draws (r : Request) (memo : Memo) : Bool :=
  (memo.get? r.key).isNone && r.candidate.isGlobal

theorem plan_snd (r : Request) (memo : Memo) (tokens : TokenSource) :
    (r.plan memo tokens).2 = if r.draws memo then tokens.draw.2 else tokens := by
  cases hu : memo.get? r.key with
  | some u =>
      rw [plan_of_some hu]
      simp [draws, hu]
  | none =>
      cases hg : r.candidate.isGlobal with
      | true =>
          rw [plan_of_none_global hu hg]
          simp [draws, hu, hg]
      | false =>
          rw [plan_of_none_own hu hg]
          simp [draws, hg]

/-- A token is drawn for each request that takes one, and for no other. -/
theorem planAll_snd (memo : Memo) (tokens : TokenSource) (rs : List Request) :
    (planAll memo tokens rs).2 =
      { tokens with drawn := tokens.drawn + rs.countP (·.draws memo) } := by
  induction rs generalizing tokens with
  | nil => rfl
  | cons r rs ih =>
      change (planAll memo (r.plan memo tokens).2 rs).2 = _
      rw [plan_snd, ih, List.countP_cons]
      cases hr : r.draws memo with
      | true => simp only [if_true, TokenSource.draw, Nat.add_assoc, Nat.add_comm 1]
      | false => rfl

theorem planAll_tokens (memo : Memo) (tokens : TokenSource) (rs : List Request) :
    (planAll memo tokens rs).2.token = tokens.token ∧
      tokens.drawn ≤ (planAll memo tokens rs).2.drawn := by
  rw [planAll_snd]
  exact ⟨rfl, Nat.le_add_right _ _⟩

/-- Every plan of a list of requests is one that its request can have, with the tokens drawn for
the whole list. -/
theorem planned_of_mem_planAll {rs : List Request}
    (h : (r, plan) ∈ (planAll memo tokens rs).1) :
    Planned memo (tokens.drawnUntil (planAll memo tokens rs).2) r plan := by
  induction rs generalizing tokens with
  | nil => cases h
  | cons q rs ih =>
      obtain ⟨hq, ht, hd⟩ := planned_plan q memo tokens
      obtain ⟨-, hd'⟩ := planAll_tokens memo (q.plan memo tokens).2 rs
      rcases List.mem_cons.mp h with h | h
      -- the tokens drawn for the first request are drawn for the list, and so are the others
      · obtain ⟨rfl, rfl⟩ := Prod.mk.inj h
        refine hq.mono fun token hm => ?_
        obtain ⟨i, h₁, h₂, e⟩ := TokenSource.mem_drawnUntil_iff.mp hm
        exact TokenSource.mem_drawnUntil_iff.mpr ⟨i, h₁, Nat.lt_of_lt_of_le h₂ hd', e⟩
      · refine (ih h).mono fun token hm => ?_
        obtain ⟨i, h₁, h₂, e⟩ := TokenSource.mem_drawnUntil_iff.mp hm
        exact TokenSource.mem_drawnUntil_iff.mpr ⟨i, Nat.le_trans hd h₁, h₂, ht ▸ e⟩

end Request

/-! ### A small example -/

/-- A template that is its variant's placeholders in a row. -/
def Template.row (v : Variant) : Template :=
  let segments := Placeholder.all.map .hole
  ⟨v, unparse segments, ⟨segments, ⟨Placeholder.all, .refl _⟩⟩⟩

/-- A generator of lists that counts its tokens, and whose templates are rows. -/
def Generator.ofRows : Generator :=
  .create .list { namespaceTokens := .sequential } ⟨fun v => some (.row v)⟩ (Text.hex 32)

/-- An annotation that asks for a list, declared in some namespace. -/
def Attribute.listOf (scope elementType : String) : Attribute :=
  ⟨"GenerateList", scope, ["collectionType"], [.type elementType]⟩

/-- A class with the annotations. -/
def Declaration.cart (scope : Option String) (attributes : List Attribute) : Declaration :=
  ⟨1, .class, "Cart", scope, .public, true, attributes⟩

end Companion
