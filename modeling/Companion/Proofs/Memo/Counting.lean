import Companion.Proofs.Candidates.Faults
import Companion.Proofs.Memo.Placeholders
import Mathlib.Algebra.Group.Nat.Defs

/-!
# Memo — tokens that are counted

A counter gives a new token each time, in passes that fail as in those that do not.  So units that
are reused keep tokens of their own, however long ago these were drawn.

* `Text.hexDigits_eq_leftpad`: how a number is written in a fixed width.
* `Generator.Draws`: for which declarations tokens are drawn, and for which none.
* `Generator.Session.drawn`: the tokens of many passes are drawn one after the other.
* `Generator.History.separates`: if no token is drawn twice, the placeholders of each complete pass
  differ.
* `Generator.counting`: so for a generator that counts its tokens.
-/

namespace Companion

/-! ### Digits -/

namespace Text

theorem hexDigit_eq_digitChar {n : Nat} (h : n < 16) : hexDigit n = n.digitChar := by
  have hall : ∀ k < 16, hexDigit k = k.digitChar := by decide
  exact hall n h

theorem leftpad_concat {α : Type} (width : Nat) (a b : α) (l : List α) :
    (l ++ [b]).leftpad (width + 1) a = l.leftpad width a ++ [b] := by
  simp [List.leftpad]

/-- The digits of a number that is not too large are its own, with zeros before them. -/
theorem hexDigits_eq_leftpad (width n : Nat) (h : n < 16 ^ (width + 1)) :
    hexDigits (width + 1) n = (Nat.toDigits 16 n).leftpad (width + 1) '0' := by
  have hlast : hexDigit (n % 16) = (n % 16).digitChar :=
    hexDigit_eq_digitChar (Nat.mod_lt n (by decide))
  induction width generalizing n with
  | zero =>
      have hn : n < 16 := by simpa using h
      rw [Nat.toDigits_of_lt_base hn, hexDigits, hlast, Nat.mod_eq_of_lt hn]
      rfl
  | succ width ih =>
      have hdiv : n / 16 < 16 ^ (width + 1) := by
        rw [Nat.pow_succ] at h
        exact Nat.div_lt_of_lt_mul (by omega)
      rw [hexDigits, ih _ hdiv (hexDigit_eq_digitChar (Nat.mod_lt _ (by decide))), hlast]
      by_cases hn : n < 16
      · -- the quotient is zero, whose digit is a zero like those before it
        rw [Nat.toDigits_of_lt_base hn, Nat.div_eq_of_lt hn, Nat.mod_eq_of_lt hn]
        simp [List.leftpad, List.replicate_succ']
      · rw [Nat.toDigits_of_base_le (n := n) (by decide) (by omega), leftpad_concat]

theorem hexDigit_inj {n m : Nat} (hn : n < 16) (hm : m < 16) (h : hexDigit n = hexDigit m) :
    n = m := by
  have hall : ∀ k < 16, ∀ j < 16, hexDigit k = hexDigit j → k = j := by decide
  exact hall n hn m hm h

/-- Numbers that are not too large are told apart by their digits. -/
theorem hexDigits_inj {width n m : Nat} (hn : n < 16 ^ width) (hm : m < 16 ^ width)
    (h : hexDigits width n = hexDigits width m) : n = m := by
  induction width generalizing n m with
  | zero => omega
  | succ width ih =>
      obtain ⟨hinit, hlast⟩ := List.append_inj h (by simp [hexDigits_length])
      have hmod := hexDigit_inj (Nat.mod_lt n (by decide)) (Nat.mod_lt m (by decide))
        (List.singleton_inj.mp hlast)
      have hdiv : n / 16 = m / 16 := by
        rw [Nat.pow_succ] at hn hm
        exact ih (Nat.div_lt_of_lt_mul (by omega)) (Nat.div_lt_of_lt_mul (by omega)) hinit
      omega

end Text

/-! ### Tokens of many passes -/

namespace TokenSource

variable {t t' t'' : TokenSource}

theorem drawnUntil_self (t : TokenSource) : t.drawnUntil t = [] := by
  simp [drawnUntil]

/-- Tokens are drawn one after the other. -/
theorem drawnUntil_append (ht : t'.token = t.token) (h : t.drawn ≤ t'.drawn)
    (h' : t'.drawn ≤ t''.drawn) : t.drawnUntil t' ++ t'.drawnUntil t'' = t.drawnUntil t'' := by
  obtain ⟨n, hn⟩ := Nat.exists_eq_add_of_le h
  obtain ⟨m, hm⟩ := Nat.exists_eq_add_of_le h'
  have hsum : t''.drawn - t.drawn = n + m := by omega
  have hn' : t'.drawn - t.drawn = n := by omega
  have hm' : t''.drawn - t'.drawn = m := by omega
  rw [drawnUntil, drawnUntil, drawnUntil, ht, ← List.map_append, hsum, hn', hm', hn,
    List.range'_append_1]

/-- The tokens of a counter are the numbers from zero. -/
theorem drawnUntil_sequential (t : TokenSource) (h : t.drawn ≤ UInt64.size) :
    sequential.drawnUntil t = (List.range t.drawn).map (Text.hex 32) := by
  rw [drawnUntil, List.range_eq_range']
  refine List.map_congr_left fun i hi => ?_
  have hi' : i < UInt64.size := by
    simp [sequential] at hi
    omega
  simp only [sequential, Nat.mod_eq_of_lt hi']

end TokenSource

namespace Generator

variable {g g' : Generator} {s : Snapshot} {signal : Signal} {turn : Nat → Nat} {calls : Calls}
  {p : Pass} {d : Declaration} {r : Request} {x : Run} {runs before after : List Run}
  {report : Report} {i : Nat} {token : String}

/-! ### Declaration by declaration -/

/-- A declaration asks for nothing if it is faulty, and only then. -/
theorem requestOf?_eq_none_iff : g.requestOf? d = none ↔ g.Faulty d := by
  refine ⟨fun h => ?_, Faulty.requestOf?_eq_none⟩
  have hfate := g.fate d
  rw [h] at hfate
  generalize g.warningOf? d = warning, g.errorOf? d = error at hfate
  cases hfate with
  | other ha => exact .unannotated ha
  | notAClass _ hk _ => exact .notAClass hk
  | rejected _ _ hf _ =>
      cases hf with
      | notPartial hp => exact .notPartial hp
      | unmatched _ hn => exact .unmatched hn
      | missing _ hfirst hl => exact .missing hfirst hl

theorem candidate_of_requestOf? (h : g.requestOf? d = some r) :
    r.candidate = .ofDeclaration d := by
  have hfate := g.fate d
  rw [h] at hfate
  generalize g.warningOf? d = warning, g.errorOf? d = error at hfate
  cases hfate with
  | served p ha hk hs => rfl

/-- Which tokens are drawn for the declarations, one after the other, and what is planned. -/
inductive Draws (g : Generator) :
    List Declaration → List String → List (Request × Plan) → Prop where
  | nil : Draws g [] [] []
  /-- None for a declaration that asks for nothing. -/
  | faulty {d : Declaration} {ds : List Declaration} {tokens : List String}
      {plans : List (Request × Plan)} : g.Faulty d →
      Draws g ds tokens plans → Draws g (d :: ds) tokens plans
  /-- None for a class whose unit is remembered. -/
  | reused {d : Declaration} {ds : List Declaration} {tokens : List String}
      {plans : List (Request × Plan)} {r : Request} {u : SourceUnit} : g.requestOf? d = some r →
      g.memo.get? r.key = some u →
      Draws g ds tokens plans → Draws g (d :: ds) tokens ((r, .reuse u) :: plans)
  /-- None for a class that has a namespace. -/
  | own {d : Declaration} {ds : List Declaration} {tokens : List String}
      {plans : List (Request × Plan)} {r : Request} : g.requestOf? d = some r →
      g.memo.get? r.key = none → d.namespace.getD "" ≠ "" →
      Draws g ds tokens plans →
      Draws g (d :: ds) tokens ((r, .render (.own (d.namespace.getD ""))) :: plans)
  /-- One for a global class whose unit is not remembered; it is placed under the token. -/
  | global {d : Declaration} {ds : List Declaration} {token : String} {tokens : List String}
      {plans : List (Request × Plan)} {r : Request} : g.requestOf? d = some r →
      g.memo.get? r.key = none → d.namespace.getD "" = "" →
      Draws g ds tokens plans →
      Draws g (d :: ds) (token :: tokens)
        ((r, .render (.global (Scope.globalMark ++ token))) :: plans)

theorem draws_planAll (g : Generator) (tokens : TokenSource) (ds : List Declaration) :
    g.Draws ds
      (tokens.drawnUntil (Request.planAll g.memo tokens (ds.filterMap g.requestOf?)).2)
      (Request.planAll g.memo tokens (ds.filterMap g.requestOf?)).1 := by
  -- each declaration leaves the tokens with which the next one starts
  induction ds generalizing tokens with
  | nil =>
      rw [List.filterMap_nil, Request.planAll, TokenSource.drawnUntil_self]
      exact .nil
  | cons d ds ih =>
      cases hr : g.requestOf? d with
      | none =>
          rw [List.filterMap_cons_none hr]
          exact .faulty (requestOf?_eq_none_iff.mp hr) (ih tokens)
      | some r =>
          have hc := candidate_of_requestOf? hr
          have hglobal : r.candidate.isGlobal = true ↔ d.namespace.getD "" = "" := by
            simp [hc, Candidate.isGlobal, Candidate.ofDeclaration]
          rw [List.filterMap_cons_some hr]
          simp only [Request.planAll]
          cases hu : g.memo.get? r.key with
          | some u =>
              rw [Request.plan_of_some hu]
              exact .reused hr hu (ih tokens)
          | none =>
              cases hg : r.candidate.isGlobal with
              | false =>
                  have hn : d.namespace.getD "" ≠ "" := fun hn => by
                    rw [hglobal.mpr hn] at hg
                    cases hg
                  rw [Request.plan_of_none_own hu hg, hc]
                  exact .own hr hu hn (ih tokens)
              | true =>
                  have hlt := (Request.planAll_tokens g.memo tokens.draw.2
                    (ds.filterMap g.requestOf?)).2
                  rw [Request.plan_of_none_global hu hg, TokenSource.drawnUntil_of_lt hlt]
                  exact .global hr hu (hglobal.mp hg) (ih tokens.draw.2)

/-- A pass whose annotation is accepted draws its tokens for the declarations in their order; any
other draws none. -/
theorem Ends.draws (he : g.Ends s signal turn calls p) :
    (calls[0]? = some (g.definition, .ok ()) ∧
        g.Draws s.declarations (g.tokens.drawnUntil p.generator.tokens) (g.plans s)) ∨
      calls[0]? ≠ some (g.definition, .ok ()) ∧ g.tokens.drawnUntil p.generator.tokens = [] := by
  have hdraws := g.draws_planAll g.tokens s.declarations
  rw [← requests_eq] at hdraws
  cases he with
  | undeclared failure => exact .inr ⟨by simp, TokenSource.drawnUntil_self _⟩
  | unprepared hu => exact .inl ⟨rfl, hdraws⟩
  | refused failure hu => exact .inl ⟨rfl, hdraws⟩
  | completed hu => exact .inl ⟨rfl, hdraws⟩

/-! ### Many passes -/

/-- The tokens of a session are drawn one after the other. -/
theorem Session.drawn (h : Session g runs g') :
    runs.flatMap (·.drawn) = g.tokens.drawnUntil g'.tokens ∧
      g'.tokens.token = g.tokens.token ∧ g.tokens.drawn ≤ g'.tokens.drawn := by
  induction h with
  | nil g => exact ⟨(TokenSource.drawnUntil_self _).symm, rfl, Nat.le_refl _⟩
  | @pass σ g g' s sink signal turn a b calls p runs hrun _ ih =>
      obtain ⟨he, -⟩ := passWith_recorded_eq_iff.mp hrun
      obtain ⟨hdrawn, htoken, hle⟩ := ih
      have hpass : p.generator.tokens.token = g.tokens.token ∧
          g.tokens.drawn ≤ p.generator.tokens.drawn := by
        rcases he.tokens with ht | ht <;> rw [ht]
        · exact ⟨rfl, Nat.le_refl _⟩
        · exact ⟨rfl, Nat.le_add_right _ _⟩
      refine ⟨?_, htoken.trans hpass.1, Nat.le_trans hpass.2 hle⟩
      rw [List.flatMap_cons, hdrawn, Run.drawn]
      exact TokenSource.drawnUntil_append hpass.1 hpass.2 hle

/-- A token that is drawn once only is not one under which a unit is remembered. -/
theorem History.not_redraws (h : History g (before ++ x :: after) g') (hg : g.memo = {})
    (hn : ((before ++ x :: after).flatMap (·.drawn)).Nodup) : ¬x.Redraws := by
  rintro ⟨token, ht, k, hk⟩
  have hmem : token ∈ [] ++ before.flatMap (·.drawn) :=
    (h.split.1.sound (sound_of_memo_eq hg)).mem_of_holds hk
  rw [List.flatMap_append, List.flatMap_cons] at hn
  exact (List.nodup_append.mp hn).2.2 token hmem token (List.mem_append_left _ ht) rfl

/-- If no token is drawn twice, each global unit of a complete pass is under one placeholder, and
these differ. -/
theorem History.separates (h : History g runs g') (hg : g.memo = {})
    (hn : (runs.flatMap (·.drawn)).Nodup) (hx : x ∈ runs) (ho : x.pass.outcome = .ok report) :
    (∀ r ∈ x.start.prepared x.snapshot, r.key.namespace = "" →
      ∃! token, x.start.Places r.key token r.unit) ∧ x.Separates := by
  have hsound : g.Sound [] := sound_of_memo_eq hg
  have hfresh : ∀ y ∈ runs, ¬y.Redraws := fun y hy => by
    obtain ⟨before, after, rfl⟩ := List.append_of_mem hy
    exact h.not_redraws hg hn
  have hnodup : ∀ y ∈ runs, y.drawn.Nodup := fun y hy =>
    (List.nodup_flatMap.mp hn).1 y hy
  -- the units remembered are apart when the pass starts, and it draws none of their tokens
  obtain ⟨before, after, rfl⟩ := List.append_of_mem hx
  obtain ⟨hbefore, ⟨signal, turn, he⟩, -⟩ := h.split
  have ha : x.start.Apart := hbefore.apart (apart_of_memo_eq hg)
    (fun y hy => hnodup y (List.mem_append_left _ hy))
    (fun y hy => hfresh y (List.mem_append_left _ hy))
  constructor
  · intro r hr hk
    obtain ⟨token, hp⟩ := (hbefore.sound hsound).exists_places hr hk
    exact ⟨token, hp, fun token' hp' => hp'.unique hp⟩
  · refine (he.separates_iff ho ha (hnodup x hx)).mpr ?_
    rintro ⟨token, ht, r, -, hholds⟩
    exact hfresh x hx ⟨token, ht, r.key, hholds⟩

/-- The tokens of a session that starts with a counter are the numbers from zero. -/
theorem Session.drawn_sequential (h : Session g runs g') (ht : g.tokens = .sequential)
    (hn : (runs.flatMap (·.drawn)).length ≤ UInt64.size) :
    runs.flatMap (·.drawn) =
      (List.range (runs.flatMap (·.drawn)).length).map (Text.hex 32) := by
  obtain ⟨hdrawn, -, -⟩ := h.drawn
  rw [ht] at hdrawn
  have hlength : (runs.flatMap (·.drawn)).length = g'.tokens.drawn := by
    rw [hdrawn]
    simp [TokenSource.drawnUntil, TokenSource.sequential]
  rw [hlength] at hn ⊢
  rw [hdrawn, TokenSource.drawnUntil_sequential _ hn]

/-- **Tokens that are counted.**  Let a generator that remembers nothing, and whose tokens are those
of a counter, run passes, with sinks and hosts of all sorts and over any snapshots, and let no more
tokens be drawn in all than the counter has numbers.

* A pass whose annotation is accepted draws one token for each global class that can be served and
  whose unit is not remembered, in the host's order, and none for any other declaration.  A pass
  whose annotation is refused draws none.
* The tokens of all passes are the numbers from zero, each in 32 lower-case hexadecimal digits, and
  no placeholder is made up twice.
* In each complete pass, each unit of a global class, reused or not, is under one placeholder, and
  these differ. -/
theorem counting (h : Session g runs g') (hg : g.memo = {}) (ht : g.tokens = .sequential)
    (hn : (runs.flatMap (·.drawn)).length ≤ UInt64.size) :
    (∀ x ∈ runs,
      (x.calls[0]? = some (x.start.definition, .ok ()) →
        x.start.Draws x.snapshot.declarations x.drawn (x.start.plans x.snapshot)) ∧
      (x.calls[0]? ≠ some (x.start.definition, .ok ()) → x.drawn = [])) ∧
    (∀ i token, (runs.flatMap (·.drawn))[i]? = some token →
      token.toList = (Nat.toDigits 16 i).leftpad 32 '0') ∧
    ((runs.flatMap (·.drawn)).map (Scope.globalMark ++ ·)).Nodup ∧
    ∀ x ∈ runs, ∀ report, x.pass.outcome = .ok report →
      report.published = (x.start.prepared x.snapshot).map (·.unit.identity) ∧
      (∀ r ∈ x.start.prepared x.snapshot, r.key.namespace = "" →
        ∃! token, x.start.Places r.key token r.unit) ∧
      x.Separates := by
  have hdrawn := h.drawn_sequential ht hn
  -- 32 digits are enough for the counter's numbers, so these are told apart by them
  have hwidth : ∀ {i : Nat}, i < (runs.flatMap (·.drawn)).length → i < 16 ^ 32 := fun hi =>
    Nat.lt_of_lt_of_le hi (Nat.le_trans hn (by decide))
  have hnodup : (runs.flatMap (·.drawn)).Nodup := by
    rw [hdrawn]
    refine List.nodup_range.map_on fun i hi j hj hij => ?_
    exact Text.hexDigits_inj (hwidth (List.mem_range.mp hi)) (hwidth (List.mem_range.mp hj))
      (String.ofList_injective hij)
  refine ⟨fun x hx => ?_, fun i token hi => ?_, ?_, fun x hx report ho => ?_⟩
  · obtain ⟨before, after, rfl⟩ := List.append_of_mem hx
    obtain ⟨-, ⟨signal, turn, he⟩, -⟩ := h.history.split
    rcases he.draws with ⟨haccepted, hdraws⟩ | ⟨hrefused, hnone⟩
    · exact ⟨fun _ => hdraws, fun hn => absurd haccepted hn⟩
    · exact ⟨fun ha => absurd ha hrefused, fun _ => hnone⟩
  · have hlt := (List.getElem?_eq_some_iff.mp hi).1
    rw [hdrawn, List.getElem?_map, List.getElem?_range hlt] at hi
    obtain rfl : Text.hex 32 i = token := Option.some.inj hi
    rw [Text.hex, String.toList_ofList]
    exact Text.hexDigits_eq_leftpad 31 i (hwidth hlt)
  · exact hnodup.map fun a b hab => String.toList_injective (by
      simpa using congrArg String.toList hab)
  · obtain ⟨before, after, rfl⟩ := List.append_of_mem hx
    obtain ⟨-, ⟨signal, turn, he⟩, -⟩ := h.history.split
    exact ⟨(he.report ho).2.2.1, h.history.separates hg hnodup hx ho⟩

/-- The theorem at three passes, of which the second is cancelled: a token is drawn in each, the one
in the second for nothing, and the unit of the first is reused in the last. -/
theorem counting_carts :
    let int := Attribute.listOf "AutoCollection" "int"
    let shop := Declaration.cart (some "Shop") [int]
    let cart := Declaration.cart none [int]
    let depot : Declaration := { cart with name := "Depot" }
    let runs := ofRows.storeRuns [({ declarations := [shop, cart] }, .never),
      ({ declarations := [depot, cart] }, .flag true), ({ declarations := [depot, cart] }, .never)]
    ∃ g' x y z report, Session ofRows runs g' ∧ runs = [x, y, z] ∧
      x.drawn = ["00000000000000000000000000000000"] ∧
      y.drawn = ["00000000000000000000000000000001"] ∧
      z.drawn = ["00000000000000000000000000000002"] ∧
      z.start.Draws z.snapshot.declarations z.drawn (z.start.plans z.snapshot) ∧
      z.pass.outcome = .ok report ∧ report.cache = ⟨1, 1, 1⟩ ∧ z.Separates := by
  intro int shop cart depot runs
  obtain ⟨g', h⟩ : ∃ g', Session ofRows runs g' := ofRows.session_storeRuns _
  obtain ⟨x, y, z, hruns⟩ := List.length_eq_three.mp (rfl : runs.length = 3)
  have hdrawn : runs.map (·.drawn) = [["00000000000000000000000000000000"],
      ["00000000000000000000000000000001"], ["00000000000000000000000000000002"]] := by
    decide +kernel
  have hcache : runs.map (fun x => x.pass.outcome.toOption.map (·.cache)) =
      [some ⟨0, 2, 0⟩, none, some ⟨1, 1, 1⟩] := by decide +kernel
  rw [hruns] at h hdrawn hcache
  obtain ⟨hx, hy, hz⟩ : x.drawn = _ ∧ y.drawn = _ ∧ z.drawn = _ := by simpa using hdrawn
  obtain ⟨-, -, report, hreport, hstatistics⟩ : _ ∧ _ ∧ ∃ report,
      z.pass.outcome.toOption = some report ∧ report.cache = ⟨1, 1, 1⟩ := by simpa using hcache
  have ho : z.pass.outcome = .ok report := eq_ok_of_toOption hreport
  have hhistory : History ofRows ([x, y] ++ z :: []) g' := h.history
  obtain ⟨-, ⟨signal, turn, he⟩, -⟩ := hhistory.split
  have hdeclared : z.calls[0]? = some (z.start.definition, .ok ()) := by
    rw [(he.of_ok ho).1]
    rfl
  have hlength : ([x, y, z].flatMap (·.drawn)).length ≤ UInt64.size := by
    simp [hx, hy, hz, UInt64.size]
  obtain ⟨hdraws, -, -, hseparates⟩ := counting h rfl rfl hlength
  exact ⟨g', x, y, z, report, hruns ▸ h, hruns, hx, hy, hz, (hdraws z (by simp)).1 hdeclared, ho,
    hstatistics, (hseparates z (by simp) report ho).2.2⟩

end Generator

end Companion
