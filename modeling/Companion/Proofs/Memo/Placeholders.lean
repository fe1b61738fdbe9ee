import Companion.Proofs.Memo.Soundness
import Companion.Proofs.Memo.Stability
import Mathlib.Data.List.Nodup
import Mathlib.Data.List.Pairwise

/-!
# Memo — the placeholders of global classes

A global class has its unit under a placeholder made from a token.  A source promises that the
tokens that it gives during one pass differ.  But a unit that is remembered keeps the token that was
drawn for it in an earlier pass, and of that the source promises nothing.

* `Request.filterMap_mark?_planAll`: the placeholders that a pass makes up are those of the tokens
  that it draws, in their order.
* `Generator.Apart`: the units remembered for different global classes have different placeholders.
* `Generator.Ends.apart` and `Generator.History.apart`: this is kept by passes that draw no token
  under which a unit is remembered.
* `Generator.Ends.separates_iff`: when the placeholders of a complete pass differ.
* `Generator.placeholders`: so for the passes of a history.
-/

namespace Companion

/-! ### Tokens that are drawn -/

theorem TokenSource.drawnUntil_of_lt {t t' : TokenSource} (h : t.drawn < t'.drawn) :
    t.drawnUntil t' = t.token t.drawn :: t.draw.2.drawnUntil t' := by
  obtain ⟨n, hn⟩ : ∃ n, t'.drawn - t.drawn = n + 1 := ⟨t'.drawn - t.drawn - 1, by omega⟩
  have hn' : t'.drawn - (t.drawn + 1) = n := by omega
  simp only [drawnUntil, draw, hn, hn', List.range'_succ, List.map_cons]

/-- The placeholder that is made up for a plan. -/
def Plan.mark? : Plan → Option String
  | .render (.global text) => some text
  | _ => none

/-- The placeholders that are made up are those of the tokens drawn, in their order. -/
theorem Request.filterMap_mark?_planAll (memo : Memo) (tokens : TokenSource) (rs : List Request) :
    (planAll memo tokens rs).1.filterMap (fun x => x.2.mark?) =
      (tokens.drawnUntil (planAll memo tokens rs).2).map (Scope.globalMark ++ ·) := by
  induction rs generalizing tokens with
  | nil => simp [planAll, TokenSource.drawnUntil]
  | cons r rs ih =>
      change ((r, (r.plan memo tokens).1) :: (planAll memo (r.plan memo tokens).2 rs).1).filterMap
        (fun x => x.2.mark?) =
          (tokens.drawnUntil (planAll memo (r.plan memo tokens).2 rs).2).map (Scope.globalMark ++ ·)
      cases hu : memo.get? r.key with
      | some u =>
          rw [plan_of_some hu, List.filterMap_cons_none rfl]
          exact ih tokens
      | none =>
          cases hg : r.candidate.isGlobal with
          | false =>
              rw [plan_of_none_own hu hg, List.filterMap_cons_none rfl]
              exact ih tokens
          | true =>
              have hlt : tokens.drawn < (planAll memo tokens.draw.2 rs).2.drawn :=
                (planAll_tokens memo tokens.draw.2 rs).2
              rw [plan_of_none_global hu hg,
                List.filterMap_cons_some (f := fun x : Request × Plan => x.2.mark?) rfl, ih,
                TokenSource.drawnUntil_of_lt hlt, List.map_cons]

namespace Generator

variable {g g' : Generator} {s : Snapshot} {signal : Signal} {turn : Nat → Nat} {calls : Calls}
  {p : Pass} {k k' : MemoKey} {token token' : String} {u : SourceUnit} {r q : Ready}
  {x : Request × Plan} {runs : List Run} {report : Report}

/-! ### Units under placeholders -/

/-- The unit is rendered and identified, for the key, under the placeholder of the token. -/
def Places (g : Generator) (k : MemoKey) (token : String) (u : SourceUnit) : Prop :=
  ∃ t, g.catalog.get? ⟨k.contract, k.parameters.shape⟩ = some t ∧
    u = k.unit (Scope.globalMark ++ token) g.settings t

/-- A unit is under the placeholder of one token only. -/
theorem Places.unique (h : g.Places k token u) (h' : g.Places k token' u) : token = token' := by
  obtain ⟨t, -, rfl⟩ := h
  obtain ⟨t', -, hu⟩ := h'
  have hidentity := congrArg (·.identity.toList) hu
  exact String.toList_injective (by simpa [MemoKey.unit] using hidentity)

/-- A unit is remembered for a global class, under the placeholder of the token. -/
def Holds (g : Generator) (k : MemoKey) (token : String) : Prop :=
  k.namespace = "" ∧ ∃ u, g.memo.get? k = some u ∧ g.Places k token u

/-- The units remembered for different global classes have different placeholders. -/
def Apart (g : Generator) : Prop :=
  ∀ k k' token, g.Holds k token → g.Holds k' token → k = k'

theorem apart_of_memo_eq (h : g.memo = {}) : g.Apart := by
  rintro k k' token ⟨-, u, hu, -⟩
  rw [h] at hu
  cases hu

/-- A unit of a pass for a global class, if it is not reused, is rendered under the placeholder of a
token that the pass draws. -/
theorem places_of_rendered (hx : x ∈ g.plans s) (hr : g.readyOf? x = some r)
    (hk : r.key.namespace = "") (hn : r.reused = false) :
    ∃ token ∈ g.tokens.drawnUntil (g.tokensAfter s),
      x.2.mark? = some (Scope.globalMark ++ token) ∧ g.Places r.key token r.unit := by
  obtain ⟨request, plan⟩ := x
  have hm : request ∈ g.requests s := mem_requests_of_mem_plans hx
  have hrequest := (eq_asked_of_mem_requests hm).2
  rw [key_of_readyOf? hr, namespace_eq_empty_iff hm] at hk
  cases Request.planned_of_mem_planAll hx with
  | reuse hu =>
      cases hr
      cases hn
  | own _ hg =>
      rw [hk] at hg
      cases hg
  | @global token _ _ htoken =>
      obtain ⟨t, ht, rfl⟩ := Option.map_eq_some_iff.mp hr
      rw [hrequest] at ht ⊢
      exact ⟨token, htoken, rfl, t, ht, rendering_asked _ _ _ _ _⟩

/-- If no template is missing, there is a unit under the placeholder of each token that the pass
draws. -/
theorem exists_rendered (hm : g.missing? (g.requests s) = none)
    (ht : token ∈ g.tokens.drawnUntil (g.tokensAfter s)) :
    ∃ r ∈ g.prepared s, r.reused = false ∧ r.key.namespace = "" ∧ g.Places r.key token r.unit := by
  have hmark : Scope.globalMark ++ token ∈ (g.plans s).filterMap fun x => x.2.mark? := by
    rw [plans, Request.filterMap_mark?_planAll]
    exact List.mem_map_of_mem ht
  obtain ⟨⟨request, plan⟩, hx, hplan⟩ := List.mem_filterMap.mp hmark
  obtain ⟨r, hr⟩ := Option.isSome_iff_exists.mp (readyOf?_isSome hm hx)
  have hrequest : request ∈ g.requests s := mem_requests_of_mem_plans hx
  have hplanned := Request.planned_of_mem_planAll hx
  cases hplanned with
  | reuse _ | own _ _ => cases hplan
  | @global token' _ hg _ =>
      have hk : r.key.namespace = "" := by
        rw [key_of_readyOf? hr, namespace_eq_empty_iff hrequest]
        exact hg
      have hn : r.reused = false := by
        obtain ⟨t, -, rfl⟩ := Option.map_eq_some_iff.mp hr
        rfl
      obtain ⟨drawn, -, hdrawn, hplaces⟩ := places_of_rendered hx hr hk hn
      obtain rfl : drawn = token := by
        have heq := (Option.some.inj (hdrawn.symm.trans hplan))
        simpa [String.ext_iff] using heq
      exact ⟨r, List.mem_filterMap.mpr ⟨_, hx, hr⟩, hn, hk, hplaces⟩

theorem mem_drawnUntil_of_rendered (hr : r ∈ g.prepared s) (hn : r.reused = false)
    (hk : r.key.namespace = "") (hp : g.Places r.key token r.unit) :
    token ∈ g.tokens.drawnUntil (g.tokensAfter s) := by
  obtain ⟨x, hx, hr⟩ := List.mem_filterMap.mp hr
  obtain ⟨drawn, hdrawn, -, hplaces⟩ := places_of_rendered hx hr hk hn
  rwa [hp.unique hplaces]

/-- If both units are for global classes, they are under different placeholders. -/
def Separate (g : Generator) (r q : Ready) : Prop :=
  r.key.namespace = "" → q.key.namespace = "" →
    ∀ token, g.Places r.key token r.unit → ¬g.Places q.key token q.unit

theorem Separate.symm (h : g.Separate r q) : g.Separate q r :=
  fun hq hr token hp hp' => h hr hq token hp' hp

instance : Std.Symm g.Separate := ⟨fun _ _ h => h.symm⟩

/-- If the tokens that a pass draws differ, so do the placeholders of the units that it renders. -/
theorem pairwise_rendered (hd : (g.tokens.drawnUntil (g.tokensAfter s)).Nodup) :
    (g.prepared s).Pairwise fun r q =>
      r.reused = false → q.reused = false → g.Separate r q := by
  have hmarks : ((g.plans s).filterMap fun x => x.2.mark?).Nodup := by
    rw [plans, Request.filterMap_mark?_planAll]
    exact hd.map fun a b hab => by simpa [String.ext_iff] using hab
  rw [prepared, List.pairwise_filterMap]
  refine (List.pairwise_filterMap.mp hmarks).imp_of_mem fun {x y} hx hy hne r hr q hq hrn hqn hrk
    hqk token hrp hqp => ?_
  obtain ⟨_, -, hmark, hplaces⟩ := places_of_rendered hx hr hrk hrn
  obtain ⟨_, -, hmark', hplaces'⟩ := places_of_rendered hy hq hqk hqn
  obtain rfl := hplaces.unique hrp
  obtain rfl := hplaces'.unique hqp
  exact hne _ hmark _ hmark' rfl

theorem separate_of_rendered (hd : (g.tokens.drawnUntil (g.tokensAfter s)).Nodup)
    (hr : r ∈ g.prepared s) (hq : q ∈ g.prepared s) (hrn : r.reused = false)
    (hqn : q.reused = false) (hne : r ≠ q) : g.Separate r q := by
  have : Std.Symm fun r q : Ready => r.reused = false → q.reused = false → g.Separate r q :=
    ⟨fun _ _ h hq hr => (h hr hq).symm⟩
  exact (pairwise_rendered hd).forall hr hq hne hrn hqn

/-! ### Passes -/

namespace Run

/-- The tokens that the pass draws. -/
def drawn (x : Run) : List String := x.start.tokens.drawnUntil x.pass.generator.tokens

/-- The pass draws a token under whose placeholder a unit is remembered. -/
def Redraws (x : Run) : Prop := ∃ token ∈ x.drawn, ∃ k, x.start.Holds k token

/-- The pass draws a token under whose placeholder it reuses a unit. -/
def Clashes (x : Run) : Prop :=
  ∃ token ∈ x.drawn, ∃ r ∈ x.start.prepared x.snapshot, x.start.Holds r.key token

/-- The units of any two global classes are under different placeholders. -/
def Separates (x : Run) : Prop := (x.start.prepared x.snapshot).Pairwise x.start.Separate

end Run

/-- What is remembered after a pass was remembered before it, or rendered in it. -/
theorem Ends.holds_cases (he : g.Ends s signal turn calls p) (h : p.generator.Holds k token) :
    g.Holds k token ∨ p.generator.tokens = g.tokensAfter s ∧
      ∃ r ∈ g.prepared s, r.reused = false ∧ r.key = k ∧ k.namespace = "" ∧
        g.Places k token r.unit := by
  obtain ⟨hk, u, hu, hplaces⟩ := h
  obtain ⟨-, hsettings, hcatalog⟩ := he.frame
  rw [Places, hsettings, hcatalog] at hplaces
  rcases he.get?_memo hu with hu | ⟨htokens, r, hr, rfl, rfl⟩
  · exact .inl ⟨hk, u, hu, hplaces⟩
  · rcases reused_of_mem_prepared hr with ⟨-, hu⟩ | ⟨hn, -⟩
    · exact .inl ⟨hk, r.unit, hu, hplaces⟩
    · exact .inr ⟨htokens, r, hr, hn, rfl, hk, hplaces⟩

/-- Units stay apart if the tokens drawn differ, and no unit is remembered under one of them. -/
theorem Ends.apart (he : g.Ends s signal turn calls p) (ha : g.Apart)
    (hd : (Run.drawn ⟨g, s, calls, p⟩).Nodup) (hn : ¬Run.Redraws ⟨g, s, calls, p⟩) :
    p.generator.Apart := by
  have hfresh : ∀ {r : Ready} {k : MemoKey} {token : String},
      p.generator.tokens = g.tokensAfter s → r ∈ g.prepared s → r.reused = false →
      r.key.namespace = "" → g.Places r.key token r.unit → ¬g.Holds k token :=
    fun htokens hr hrn hrk hp hholds =>
      hn ⟨_, by
        rw [Run.drawn, htokens]
        exact mem_drawnUntil_of_rendered hr hrn hrk hp, _, hholds⟩
  intro k k' token hk hk'
  rcases he.holds_cases hk with hk | ⟨htokens, r, hr, hrn, rfl, hrk, hp⟩
  · rcases he.holds_cases hk' with hk' | ⟨htokens, q, hq, hqn, rfl, hqk, hp⟩
    · exact ha k k' token hk hk'
    · exact absurd hk (hfresh htokens hq hqn hqk hp)
  · rcases he.holds_cases hk' with hk' | ⟨-, q, hq, hqn, rfl, hqk, hp'⟩
    · exact absurd hk' (hfresh htokens hr hrn hrk hp)
    · by_contra hne
      rw [Run.drawn, htokens] at hd
      exact separate_of_rendered hd hr hq hrn hqn (fun e => hne (by rw [e])) hrk hqk token hp hp'

/-- If the units remembered are apart, the placeholders of a complete pass differ unless it draws a
token under whose placeholder it reuses a unit. -/
theorem Ends.separates_iff (he : g.Ends s signal turn calls p) (ho : p.outcome = .ok report)
    (ha : g.Apart) (hd : (Run.drawn ⟨g, s, calls, p⟩).Nodup) :
    Run.Separates ⟨g, s, calls, p⟩ ↔ ¬Run.Clashes ⟨g, s, calls, p⟩ := by
  obtain ⟨hm, htokens, -, -⟩ := he.report ho
  unfold Run.Clashes
  rw [Run.drawn, htokens] at hd ⊢
  constructor
  · rintro hseparates ⟨token, ht, r, hr, hk, u, hu, hp⟩
    -- the unit that is rendered under the token is not the one reused
    obtain ⟨q, hq, hqn, hqk, hqp⟩ := exists_rendered hm ht
    rcases reused_of_mem_prepared hr with ⟨hreused, hunit⟩ | ⟨-, hunit⟩
    · have hne : r ≠ q := fun e => by
        rw [e, hqn] at hreused
        cases hreused
      obtain rfl := Option.some.inj (hunit.symm.trans hu)
      exact List.Pairwise.forall hseparates hr hq hne hk hqk token hp hqp
    · rw [hu] at hunit
      cases hunit
  · intro hclash
    have hidentities : ((g.prepared s).map (·.unit.identity)).Nodup := by
      have hannounced := (he.of_ok ho).2
      rw [announced, List.map_cons, List.map_map] at hannounced
      exact (List.nodup_cons.mp hannounced).2
    refine ((pairwise_rendered hd).and (List.pairwise_map.mp hidentities)).imp_of_mem
      fun {r q} hr hq hdiffer hrk hqk token hrp hqp => ?_
    obtain ⟨hrendered, hne⟩ := hdiffer
    rcases reused_of_mem_prepared hr with ⟨-, hru⟩ | ⟨hrn, -⟩
    · have hrholds : g.Holds r.key token := ⟨hrk, _, hru, hrp⟩
      rcases reused_of_mem_prepared hq with ⟨-, hqu⟩ | ⟨hqn, -⟩
      · -- two units reused under one placeholder are one unit
        rw [ha _ _ _ hrholds ⟨hqk, _, hqu, hqp⟩, hqu] at hru
        exact hne (by rw [Option.some.inj hru])
      · exact hclash ⟨token, mem_drawnUntil_of_rendered hq hqn hqk hqp, r, hr, hrholds⟩
    · rcases reused_of_mem_prepared hq with ⟨-, hqu⟩ | ⟨hqn, -⟩
      · exact hclash ⟨token, mem_drawnUntil_of_rendered hr hrn hrk hrp, q, hq, hqk, _, hqu, hqp⟩
      · exact hrendered hrn hqn hrk hqk token hrp hqp

/-! ### Histories -/

/-- Units stay apart in a history in which the tokens of each pass differ, and none is drawn under
which a unit is remembered. -/
theorem History.apart (h : History g runs g') (ha : g.Apart) (hd : ∀ x ∈ runs, x.drawn.Nodup)
    (hn : ∀ x ∈ runs, ¬x.Redraws) : g'.Apart := by
  induction h with
  | nil g => exact ha
  | withTokens tokens _ ih => exact ih ha hd hn
  | pass hrun _ ih =>
      obtain ⟨he, -⟩ := passWith_recorded_eq_iff.mp hrun
      obtain ⟨hdx, hd⟩ := List.forall_mem_cons.mp hd
      obtain ⟨hnx, hn⟩ := List.forall_mem_cons.mp hn
      exact ih (he.apart ha hdx hnx) hd hn

/-- What is remembered after a history is what the templates give, with tokens drawn before it or in
it. -/
theorem History.sound {drawn : List String} (h : History g runs g') (hs : g.Sound drawn) :
    g'.Sound (drawn ++ runs.flatMap (·.drawn)) := by
  induction h generalizing drawn with
  | nil g => simpa using hs
  | withTokens tokens _ ih => exact ih hs
  | pass hrun _ ih =>
      obtain ⟨he, -⟩ := passWith_recorded_eq_iff.mp hrun
      have hrest := ih (hs.ends he)
      rwa [List.append_assoc] at hrest

/-- A unit that is remembered for a global class is under the placeholder of a token that was
drawn. -/
theorem Sound.mem_of_holds {drawn : List String} (h : g.Sound drawn) (hk : g.Holds k token) :
    token ∈ drawn := by
  obtain ⟨hglobal, u, hu, hp⟩ := hk
  obtain ⟨-, scope, t, hscope, ht, hunit⟩ := h k u hu
  obtain ⟨token', htoken, rfl⟩ := (if_pos hglobal).mp hscope
  rwa [hp.unique ⟨t, ht, hunit⟩]

theorem Sound.exists_places {drawn : List String} (h : g.Sound drawn) (hr : r ∈ g.prepared s)
    (hk : r.key.namespace = "") : ∃ token, g.Places r.key token r.unit := by
  obtain ⟨-, scope, t, hscope, ht, hunit⟩ := h.gives_prepared hr
  obtain ⟨token, -, rfl⟩ := (if_pos hk).mp hscope
  exact ⟨token, t, ht, hunit⟩

/-- **The placeholders of global classes.**  Let a generator that remembers nothing run passes, with
sinks and hosts of all sorts and over any snapshots, and let the tokens that are drawn during each
pass differ.

* Let a pass be complete, and let none before it have drawn a token under which a unit was
  remembered.  Then each unit for a global class is rendered and identified under the placeholder of
  one token.  The placeholders of any two differ if and only if the pass draws no token under which
  it reuses a unit.
* If no pass draws a token under which a unit is remembered, the placeholders of each complete pass
  differ.
* That is so if no token is drawn twice in all passes. -/
theorem placeholders (h : History g runs g') (hg : g.memo = {})
    (hd : ∀ x ∈ runs, x.drawn.Nodup) :
    (∀ before x after, runs = before ++ x :: after → (∀ y ∈ before, ¬y.Redraws) →
      ∀ report, x.pass.outcome = .ok report →
        report.published = (x.start.prepared x.snapshot).map (·.unit.identity) ∧
        (∀ r ∈ x.start.prepared x.snapshot, r.key.namespace = "" →
          ∃! token, x.start.Places r.key token r.unit) ∧
        (x.Separates ↔ ¬x.Clashes)) ∧
    ((∀ x ∈ runs, ¬x.Redraws) →
      ∀ x ∈ runs, ∀ report, x.pass.outcome = .ok report → x.Separates) ∧
    ((runs.flatMap (·.drawn)).Nodup → ∀ x ∈ runs, ¬x.Redraws) := by
  have hsound : g.Sound [] := sound_of_memo_eq hg
  have hpass : ∀ before x after, runs = before ++ x :: after → (∀ y ∈ before, ¬y.Redraws) →
      ∀ report, x.pass.outcome = .ok report →
        report.published = (x.start.prepared x.snapshot).map (·.unit.identity) ∧
        (∀ r ∈ x.start.prepared x.snapshot, r.key.namespace = "" →
          ∃! token, x.start.Places r.key token r.unit) ∧
        (x.Separates ↔ ¬x.Clashes) := by
    rintro before x after rfl hn report ho
    obtain ⟨hbefore, ⟨signal, turn, he⟩, -⟩ := h.split
    have ha : x.start.Apart := hbefore.apart (apart_of_memo_eq hg)
      (fun y hy => hd y (List.mem_append_left _ hy)) hn
    refine ⟨(he.report ho).2.2.1, fun r hr hk => ?_,
      he.separates_iff ho ha (hd x (List.mem_append_right _ List.mem_cons_self))⟩
    obtain ⟨token, hp⟩ := (hbefore.sound hsound).exists_places hr hk
    exact ⟨token, hp, fun token' hp' => hp'.unique hp⟩
  refine ⟨hpass, fun hn x hx report ho => ?_, fun hnodup x hx => ?_⟩
  · obtain ⟨before, after, rfl⟩ := List.append_of_mem hx
    obtain ⟨-, -, hiff⟩ := hpass before x after rfl
      (fun y hy => hn y (List.mem_append_left _ hy)) report ho
    -- a token under which a unit is reused is one under which it is remembered
    exact hiff.mpr fun ⟨token, ht, r, _, hr⟩ => hn x hx ⟨token, ht, r.key, hr⟩
  · obtain ⟨before, after, rfl⟩ := List.append_of_mem hx
    rintro ⟨token, ht, k, hk⟩
    have hmem := (h.split.1.sound hsound).mem_of_holds hk
    rw [List.flatMap_append, List.flatMap_cons] at hnodup
    exact (List.nodup_append.mp hnodup).2.2 token hmem token (List.mem_append_left _ ht) rfl

/-- The theorem at a source that gives one token over and over, and so one in each of two passes:
the second pass has two global classes under one placeholder. -/
theorem placeholders_carts :
    let int := Attribute.listOf "AutoCollection" "int"
    let cart := Declaration.cart none [int]
    let depot : Declaration := { cart with name := "Depot" }
    let g := ofRows.withTokens (.cycle ["a"])
    let runs := g.storeRuns
      [({ declarations := [cart] }, .never), ({ declarations := [cart, depot] }, .never)]
    ∃ g' x y report, History g runs g' ∧ runs = [x, y] ∧ x.drawn = ["a"] ∧ y.drawn = ["a"] ∧
      y.pass.outcome = .ok report ∧
      report.published = ["Global_a.Cart.g.cs", "Global_a.Depot.g.cs"] ∧
      ¬x.Redraws ∧ y.Clashes ∧ ¬y.Separates := by
  intro int cart depot g runs
  let k : MemoKey := ⟨.list, "", "Cart", .public, ⟨"int", none⟩⟩
  let t := Template.row ⟨.list, .autoBacked⟩
  let u := k.unit (Scope.globalMark ++ "a") ofRows.settings t
  obtain ⟨g', h⟩ : ∃ g', History g runs g' := history_storeRuns g _
  obtain ⟨x, y, hruns⟩ := List.length_eq_two.mp (rfl : runs.length = 2)
  have hdrawn : runs.map (·.drawn) = [["a"], ["a"]] := by decide +kernel
  have hpublished : runs.map (fun x => x.pass.outcome.toOption.map (·.published)) =
      [some ["Global_a.Cart.g.cs"], some ["Global_a.Cart.g.cs", "Global_a.Depot.g.cs"]] := by
    decide +kernel
  have hkeys : runs.map (fun x => x.start.memo.keys) = [[], [k]] := by decide +kernel
  have hreused : runs.map (fun x => decide (⟨k, u, true⟩ ∈ x.start.prepared x.snapshot ∧
      x.start.memo.get? k = some u ∧ x.start.catalog.get? ⟨.list, .autoBacked⟩ = some t ∧
      x.start.settings = ofRows.settings)) = [false, true] := by
    decide +kernel
  rw [hruns] at h hdrawn hpublished hkeys hreused
  obtain ⟨hx, hy⟩ : x.drawn = ["a"] ∧ y.drawn = ["a"] := by simpa using hdrawn
  obtain ⟨report, hreport, hids⟩ : ∃ report, y.pass.outcome.toOption = some report ∧
      report.published = ["Global_a.Cart.g.cs", "Global_a.Depot.g.cs"] := by
    simpa using (List.cons.inj (List.cons.inj hpublished).2).1
  have ho : y.pass.outcome = .ok report := eq_ok_of_toOption hreport
  have hfresh : ¬x.Redraws := by
    rintro ⟨token, -, k', -, v, hv, -⟩
    have hempty : x.start.memo.keys = [] := (List.cons.inj hkeys).1
    have hmem := (Memo.mem_keys_iff _ _).mpr (Option.isSome_of_eq_some hv)
    rw [hempty] at hmem
    cases hmem
  have hclashes : y.Clashes := by
    obtain ⟨-, hr, hu, ht, hsettings⟩ : _ ∧ _ ∧ _ ∧ _ ∧ _ := by simpa using hreused
    exact ⟨"a", by simp [hy], _, hr, rfl, u, hu, t, ht, by rw [hsettings]⟩
  obtain ⟨hpass, -, -⟩ := placeholders h rfl (by simp [hx, hy])
  obtain ⟨-, -, hiff⟩ := hpass [x] y [] rfl (by simpa using hfresh) report ho
  exact ⟨g', x, y, report, hruns ▸ h, hruns, hx, hy, ho, hids, hfresh, hclashes,
    fun hseparates => hiff.mp hseparates hclashes⟩

end Generator

end Companion
