import Mathlib.Data.List.Induction
import NetControl.Proofs.Tether.Posture

/-!
# Interfaces do not disturb each other

Take a lifetime in which everything but the switches works, and leave out every operation that names
one interface. What is left goes as before: the same results, the same state but for the one
interface, and the same writes to the knobs of the others, in the same order
(`Controller.others_undisturbed`).

The two lifetimes are compared step by step. An operation on another interface looks at nothing but
its own name in the list and changes nothing but its own entry (`Posture.act_without`), and an
operation on the one interface leaves everything else as it was (`Posture.without_act_of_names`).
The operations on forwarding are the same plan from the same state in both lifetimes, and go the
same way as long as the switches answer alike (`Plan.eq_of_alike`).
-/

namespace NetControl.Tether

open Plan

/-! ## Switches that answer alike -/

/-- As far as both try them, the switches answer the one as the other. -/
def Alike (h h' : List Exchange) : Prop :=
  switchAnswers h <+: switchAnswers h' ∨ switchAnswers h' <+: switchAnswers h

variable {h h' h₁ h₂ h₁' h₂' : List Exchange}

theorem Alike.of_prefix (alike : Alike h h') (first : h₁ <+: h) (second : h₁' <+: h') :
    Alike h₁ h₁' := by
  have early : switchAnswers h₁ <+: switchAnswers h := first.filterMap _
  have early' : switchAnswers h₁' <+: switchAnswers h' := second.filterMap _
  rcases alike with shorter | longer
  · exact List.prefix_or_prefix_of_prefix (early.trans shorter) early'
  · exact List.prefix_or_prefix_of_prefix early (early'.trans longer)

theorem Alike.of_append_of_eq (alike : Alike (h₁ ++ h₂) (h₁' ++ h₂'))
    (same : switchAnswers h₁' = switchAnswers h₁) : Alike h₂ h₂' := by
  unfold Alike at alike
  rwa [switchAnswers_append, switchAnswers_append, same, List.prefix_append_right_inj,
    List.prefix_append_right_inj] at alike

theorem Alike.of_cons_switch {family : Family} {on : Bool} {r r' : Except OsError Unit}
    (alike : Alike (⟨.switch family on, r⟩ :: h) (⟨.switch family on, r'⟩ :: h')) :
    r' = r ∧ Alike h h' := by
  rcases alike with shorter | longer
  · obtain ⟨same, later⟩ := List.cons_prefix_cons.mp shorter
    exact ⟨same.symm, Or.inl later⟩
  · obtain ⟨same, later⟩ := List.cons_prefix_cons.mp longer
    exact ⟨same, Or.inr later⟩

/-- A plan that asks only for switches goes one way if they answer alike. -/
theorem Plan.eq_of_alike {σ α : Type} {p : Plan σ α} {s t t' : σ} {a a' : α}
    (first : p.Follows s h a t) (second : p.Follows s h' a' t')
    (switches : ∀ x ∈ h, x.IsSwitch) (alike : Alike h h') : h' = h ∧ a' = a ∧ t' = t := by
  induction first generalizing h' with
  | done a s =>
    cases second
    exact ⟨rfl, rfl, rfl⟩
  | read _ ih =>
    cases second with
    | read second => exact ih second switches alike
  | write _ ih =>
    cases second with
    | write second => exact ih second switches alike
  | ask r _ ih =>
    cases second with
    | ask r' second =>
      obtain ⟨⟨family, on, rfl⟩, others⟩ := List.forall_mem_cons.mp switches
      obtain ⟨same, later⟩ := alike.of_cons_switch
      subst same
      obtain ⟨rfl, rfl, rfl⟩ := ih second others later
      exact ⟨rfl, rfl, rfl⟩
  | note _ ih =>
    cases second with
    | note second => exact ih second switches alike

namespace Controller

/-! ## A posture without one interface -/

/-- The operation tethers or releases the interface. -/
def Operation.names (X : String) : Operation → Bool
  | tether i => i = X
  | untether i => i = X
  | _ => false

/-- An operation names one interface at most. -/
theorem Operation.eq_of_names {op : Operation} {i j : String} (first : op.names i = true)
    (second : op.names j = true) : i = j := by
  cases op with
  | tether k => exact (of_decide_eq_true first).symm.trans (of_decide_eq_true second)
  | untether k => exact (of_decide_eq_true first).symm.trans (of_decide_eq_true second)
  | _ => cases first

theorem Operation.forwards_of_names {op : Operation} {i : String} (named : op.names i = true) :
    op.forwards = false := by
  cases op with
  | enable who => cases named
  | disable who => cases named
  | _ => rfl

namespace Posture

/-- The posture in which the interface is not tethered. -/
def without (p : Posture) (X : String) : Posture :=
  { p with interfaces := p.interfaces.filter (· ≠ X) }

variable {p : Posture} {op : Operation} {X : String}

theorem filter_erase {names : List String} {i : String} (other : i ≠ X) :
    (names.erase i).filter (· ≠ X) = (names.filter (· ≠ X)).erase i := by
  induction names with
  | nil => rfl
  | cons first rest ih =>
    by_cases same : first = i
    · subst same
      rw [List.erase_cons_head, List.filter_cons_of_pos (by simpa using other),
        List.erase_cons_head]
    · rw [List.erase_cons_tail (by simpa using same)]
      by_cases gone : first = X
      · rw [List.filter_cons_of_neg (by simpa using gone), ih,
          List.filter_cons_of_neg (by simpa using gone)]
      · rw [List.filter_cons_of_pos (by simpa using gone), ih,
          List.filter_cons_of_pos (by simpa using gone),
          List.erase_cons_tail (by simpa using same)]

theorem filter_erase_self {names : List String} :
    (names.erase X).filter (· ≠ X) = names.filter (· ≠ X) := by
  induction names with
  | nil => rfl
  | cons first rest ih =>
    by_cases same : first = X
    · subst same
      rw [List.erase_cons_head, List.filter_cons_of_neg (by simp)]
    · rw [List.erase_cons_tail (by simpa using same), List.filter_cons_of_pos (by simpa using same),
        List.filter_cons_of_pos (by simpa using same), ih]

/-- An operation that names the interface leaves everything else as it was. -/
theorem without_act_of_names (named : op.names X = true) :
    (p.act op).posture.without X = p.without X := by
  cases op with
  | tether i =>
    obtain rfl : i = X := of_decide_eq_true named
    simp only [act]
    split
    · rfl
    split
    · rfl
    · simp [without]
  | untether i =>
    obtain rfl : i = X := of_decide_eq_true named
    simp only [act]
    split
    · exact congrArg (fun names => { p with interfaces := names }) filter_erase_self
    · rfl
  | _ => cases named

theorem mem_without {i : String} (other : i ≠ X) :
    i ∈ (p.without X).interfaces ↔ i ∈ p.interfaces := by
  unfold without
  simp [List.mem_filter, other]

/-- Any other operation does without the interface what it does with it. -/
theorem act_without (other : op.names X = false) :
    (p.without X).act op = { p.act op with posture := (p.act op).posture.without X } := by
  cases op with
  | enable who => rfl
  | disable who => rfl
  | stop => rfl
  | start ranges =>
    have started : (p.without X).started = p.started := rfl
    simp only [act, started]
    split
    · rfl
    split
    · rfl
    · rfl
  | tether i =>
    have different : i ≠ X := of_decide_eq_false other
    simp only [act, mem_without different]
    split
    · rfl
    split
    · rfl
    · simp [without, different]
  | untether i =>
    have different : i ≠ X := of_decide_eq_false other
    simp only [act, mem_without different]
    split
    · simp only [without, filter_erase different]
    · rfl
  | setServers netId servers =>
    simp only [act]
    split
    · rfl
    · rfl

/-- Operations write the knobs of the interface that they name. -/
theorem interface_of_act {w : KnobWrite} (member : w ∈ (p.act op).writes) :
    op.names w.interface = true := by
  have about {i : String} {settings : List Setting} (inside : w ∈ writesOf i settings) :
      i = w.interface := by
    obtain ⟨s, -, rfl⟩ := List.mem_map.mp inside
    rfl
  cases op with
  | tether i =>
    simp only [act] at member
    split at member
    · cases member
    split at member
    · cases member
    · exact decide_eq_true (about member)
  | untether i =>
    simp only [act] at member
    split at member
    · exact decide_eq_true (about member)
    · cases member
  | start ranges =>
    simp only [act] at member
    split at member
    · cases member
    split at member
    · cases member
    · cases member
  | setServers netId servers =>
    simp only [act] at member
    split at member
    · cases member
    · cases member
  | enable who => cases member
  | disable who => cases member
  | stop => cases member

theorem without_eq_self_iff : p.without X = p ↔ X ∉ p.interfaces := by
  have names : p.interfaces.filter (· ≠ X) = p.interfaces ↔ X ∉ p.interfaces := by
    rw [List.filter_eq_self]
    constructor
    · intro all inside
      simpa using all X inside
    · intro absent i inside
      exact decide_eq_true fun same => absent (same ▸ inside)
  rw [← names]
  constructor
  · exact congrArg interfaces
  · intro same
    unfold without
    rw [same]

/-- An interface that is not tethered stays so until it is tethered. -/
theorem without_act_of_ne_tether (absent : p.without X = p) (other : op ≠ .tether X) :
    (p.act op).posture.without X = (p.act op).posture := by
  cases named : op.names X with
  | false =>
    have same := act_without (p := p) named
    rw [absent] at same
    exact (congrArg Deed.posture same).symm
  | true =>
    cases op with
    | tether i => exact (other (congrArg _ (of_decide_eq_true named))).elim
    | untether i =>
      obtain rfl : i = X := of_decide_eq_true named
      have refused : p.act (.untether i) = p.refuse (.notTethered i) :=
        if_neg (without_eq_self_iff.mp absent)
      rw [refused]
      exact absent
    | _ => cases named

end Posture

/-! ## Two operations -/

variable {c c' d d' : Controller} {op : Operation} {X : String} {r r' : Except Error Unit}

/-- Operations on forwarding go one way from one state if the switches answer alike. -/
theorem eq_of_forwards (forwards : op.forwards = true) (same : d.forwarding = c.forwarding)
    (step : c.Transition op h r c') (step' : d.Transition op h' r' d') (alike : Alike h h') :
    r' = r ∧ h' = h := by
  cases op with
  | enable who =>
    cases step with
    | enable switched =>
      cases step' with
      | enable switched' =>
        rw [same] at switched'
        obtain ⟨rfl, rfl, -⟩ :=
          eq_of_alike switched switched' (Forwarding.isSwitch_of_enable switched) alike
        exact ⟨rfl, rfl⟩
  | disable who =>
    cases step with
    | disable switched =>
      cases step' with
      | disable switched' =>
        rw [same] at switched'
        obtain ⟨rfl, rfl, -⟩ :=
          eq_of_alike switched switched' (Forwarding.isSwitch_of_disable switched) alike
        exact ⟨rfl, rfl⟩
  | _ => cases forwards

/-- Where the one controller lacks an interface and is like the other in everything else, an
operation that does not name it has the same result, tries the switches with the same answers, and
leaves the two like that. -/
theorem without_of_transitions (lacks : d.posture = c.posture.without X)
    (step : c.Transition op h r c') (step' : d.Transition op h' r' d')
    (other : op.names X = false) (obliging : Obliging h) (obliging' : Obliging h')
    (alike : Alike h h') :
    d'.posture = c'.posture.without X ∧ r' = r ∧ switchAnswers h' = switchAnswers h := by
  have first := computed_of_transition step obliging
  have second := computed_of_transition step' obliging'
  have deed := Posture.act_without (p := c.posture) other
  rw [← lacks] at deed
  refine ⟨?_, ?_⟩
  · rw [second.posture, deed, first.posture]
  cases forwards : op.forwards with
  | false =>
    rw [second.result forwards, first.result forwards, second.silent forwards,
      first.silent forwards, deed]
    exact ⟨rfl, rfl⟩
  | true =>
    have same : d.forwarding = c.forwarding := congrArg Posture.forwarding lacks
    obtain ⟨rfl, rfl⟩ := eq_of_forwards forwards same step step' alike
    exact ⟨rfl, rfl⟩

/-- The knobs that are written are then the same as well, and are those of other interfaces. -/
theorem knobWrites_of_transitions (lacks : d.posture = c.posture.without X)
    (step : c.Transition op h r c') (step' : d.Transition op h' r' d')
    (other : op.names X = false) (obliging : Obliging h) (obliging' : Obliging h') :
    knobWrites h' = (knobWrites h).filter (·.interface ≠ X) := by
  have first := computed_of_transition step obliging
  have second := computed_of_transition step' obliging'
  have deed := Posture.act_without (p := c.posture) other
  rw [← lacks] at deed
  rw [second.writes, deed, first.writes]
  refine (List.filter_eq_self.mpr fun w member => decide_eq_true ?_).symm
  rintro rfl
  exact Bool.false_ne_true (other.symm.trans (Posture.interface_of_act member))

/-- An operation that names the interface tries no switch, writes no knob of another one, and leaves
everything else as it was. -/
theorem without_of_names (step : c.Transition op h r c') (named : op.names X = true)
    (obliging : Obliging h) :
    c'.posture.without X = c.posture.without X ∧ switchAnswers h = [] ∧
      (knobWrites h).filter (·.interface ≠ X) = [] := by
  have computed := computed_of_transition step obliging
  refine ⟨?_, computed.silent (Operation.forwards_of_names named), ?_⟩
  · rw [computed.posture, Posture.without_act_of_names named]
  · rw [List.filter_eq_nil_iff, computed.writes]
    intro w member
    simpa using Operation.eq_of_names (Posture.interface_of_act member) named

theorem not_mem_of_untether (step : c.Transition (.untether X) h r c')
    (nodup : c.interfaces.Nodup) : X ∉ c'.interfaces := by
  cases step with
  | untetherAbsent absent => exact absent
  | untethers present client push => exact nodup.not_mem_erase

/-! ## Two lifetimes -/

/-- An operation and its result. -/
def Performed.outcome (p : Performed) : Operation × Except Error Unit :=
  (p.operation, p.result)

namespace Lifetime

variable {ω ω' : Type} {answer : (c : Call) → ω → c.Answer × ω}
  {answer' : (c : Call) → ω' → c.Answer × ω'}

/-- The second lifetime is the first without one interface. -/
structure Aside (X : String) (l : Lifetime ω) (l' : Lifetime ω') : Prop where
  /-- All operations that do not name the interface have the same results. -/
  outcomes : l'.performed.map Performed.outcome =
    (l.performed.filter fun p => !p.operation.names X).map Performed.outcome
  /-- The state is the same, but the interface is not in the list. -/
  posture : l'.controller.posture = l.controller.posture.without X
  /-- The knobs of all other interfaces are written as before. -/
  writes : knobWrites l'.exchanges = (knobWrites l.exchanges).filter (·.interface ≠ X)
  /-- The switches are tried as often, and answer the same. -/
  answers : switchAnswers l'.exchanges = switchAnswers l.exchanges

variable {l : Lifetime ω} {l' : Lifetime ω'}

/-- One more operation that names the interface is left out. -/
theorem Aside.perform_left (aside : l.Aside X l') (named : op.names X = true)
    (obliging : Obliging (l.perform answer op).exchanges) : (l.perform answer op).Aside X l' := by
  rw [exchanges_perform, obliging_append] at obliging
  have step := transition_of_follows (follows_run answer op.plan l.controller l.world)
  obtain ⟨lacks, silent, quiet⟩ := without_of_names step named obliging.2
  refine ⟨?_, aside.posture.trans lacks.symm, ?_, ?_⟩
  · rw [aside.outcomes]
    simp [perform, named]
  · rw [exchanges_perform, knobWrites_append, List.filter_append, quiet, List.append_nil,
      aside.writes]
  · rw [exchanges_perform, switchAnswers_append, silent, List.append_nil, aside.answers]

/-- One more operation that does not name the interface is carried out in both. -/
theorem Aside.perform_both (aside : l.Aside X l') (other : op.names X = false)
    (obliging : Obliging (l.perform answer op).exchanges)
    (obliging' : Obliging (l'.perform answer' op).exchanges)
    (alike : Alike (l.perform answer op).exchanges (l'.perform answer' op).exchanges) :
    (l.perform answer op).Aside X (l'.perform answer' op) := by
  rw [exchanges_perform, obliging_append] at obliging obliging'
  rw [exchanges_perform, exchanges_perform] at alike
  have step := transition_of_follows (follows_run answer op.plan l.controller l.world)
  have step' := transition_of_follows (follows_run answer' op.plan l'.controller l'.world)
  obtain ⟨lacks, result, answers⟩ := without_of_transitions aside.posture step step' other
    obliging.2 obliging'.2 (alike.of_append_of_eq aside.answers)
  have writes := knobWrites_of_transitions aside.posture step step' other obliging.2 obliging'.2
  refine ⟨?_, lacks, ?_, ?_⟩
  · simp [perform, other, aside.outcomes, Performed.outcome, result]
  · rw [exchanges_perform, exchanges_perform, knobWrites_append, knobWrites_append,
      List.filter_append, aside.writes, writes]
  · rw [exchanges_perform, exchanges_perform, switchAnswers_append, switchAnswers_append,
      aside.answers, answers]

/-- Two boots in the same mode go one way if the switches answer alike. -/
theorem aside_begin {mode : String} {switches : Switches} {places : Places} {w : ω} {w' : ω'}
    (alike : Alike (begin answer mode switches places w).exchanges
      (begin answer' mode switches places w').exchanges) :
    (begin answer mode switches places w).Aside X (begin answer' mode switches places w') := by
  have first := follows_run answer (boot mode) (fresh switches places) w
  have second := follows_run answer' (boot mode) (fresh switches places) w'
  obtain ⟨⟨f, state⟩, quiet⟩ := of_follows_boot first
  have exchanges {ω : Type} (answer : (c : Call) → ω → c.Answer × ω) (w : ω) :
      (begin answer mode switches places w).exchanges =
        (boot mode).exchanges answer (fresh switches places) w := List.append_nil _
  rw [exchanges, exchanges] at alike
  obtain ⟨same, -, state'⟩ := eq_of_alike first second quiet alike
  refine ⟨rfl, ?_, ?_, ?_⟩
  · have controller : (begin answer mode switches places w).controller =
        { fresh switches places with forwarding := f } := state
    have controller' : (begin answer' mode switches places w').controller =
        (begin answer mode switches places w).controller := state'
    rw [controller', controller]
    rfl
  · rw [exchanges, exchanges, same, knobWrites_of_isSwitch quiet]
    rfl
  · rw [exchanges, exchanges, same]

theorem aside_performAll (ops : List Operation) (first : l.Aside X l')
    (obliging : Obliging (l.performAll answer ops).exchanges)
    (obliging' : Obliging (l'.performAll answer' (ops.filter fun op => !op.names X)).exchanges)
    (alike : Alike (l.performAll answer ops).exchanges
      (l'.performAll answer' (ops.filter fun op => !op.names X)).exchanges) :
    (l.performAll answer ops).Aside X
      (l'.performAll answer' (ops.filter fun op => !op.names X)) := by
  induction ops using List.reverseRecOn with
  | nil => exact first
  | append_singleton ops op ih =>
    rw [performAll_concat] at obliging alike ⊢
    have before := exchanges_prefix_perform answer (l.performAll answer ops) op
    have granted := obliging.of_prefix before
    rw [List.filter_append] at obliging' alike ⊢
    cases named : op.names X with
    | true =>
      rw [List.filter_cons_of_neg (by simp [named]), List.filter_nil, List.append_nil]
        at obliging' alike ⊢
      have earlier := alike.of_prefix before List.prefix_rfl
      exact (ih granted obliging' earlier).perform_left named obliging
    | false =>
      rw [List.filter_cons_of_pos (by simp [named]), List.filter_nil, performAll_concat]
        at obliging' alike ⊢
      have before' := exchanges_prefix_perform answer'
        (l'.performAll answer' (ops.filter fun op => !op.names X)) op
      have earlier := ih granted (obliging'.of_prefix before') (alike.of_prefix before before')
      exact earlier.perform_both named obliging obliging' alike

/-- An interface that was released is not tethered until it is tethered again. -/
theorem without_performAll (after : List Operation)
    (absent : l.controller.posture.without X = l.controller.posture)
    (never : .tether X ∉ after) (obliging : Obliging (l.performAll answer after).exchanges) :
    (l.performAll answer after).controller.posture.without X =
      (l.performAll answer after).controller.posture := by
  induction after using List.reverseRecOn with
  | nil => exact absent
  | append_singleton earlier op ih =>
    rw [List.mem_append, not_or, List.mem_singleton] at never
    rw [performAll_concat] at obliging ⊢
    have granted := obliging.of_prefix (exchanges_prefix_perform _ _ op)
    rw [exchanges_perform, obliging_append] at obliging
    have step := transition_of_follows (follows_run answer op.plan
      (l.performAll answer earlier).controller (l.performAll answer earlier).world)
    have last : ((l.performAll answer earlier).perform answer op).controller.posture = _ :=
      (computed_of_transition step obliging.2).posture
    rw [last]
    exact Posture.without_act_of_ne_tether (ih never.1 granted) (Ne.symm never.2)

end Lifetime

/-! ## A world for the second lifetime -/

/-- A world that grants everything and answers the switches from a list, while it lasts. -/
def replaying : (c : Call) → List (Except OsError Unit) → c.Answer × List (Except OsError Unit)
  | .switch _ _, w => (w.headD (.ok ()), w.tail)
  | c, w => ((willing c ()).1, w)

theorem of_answers_replaying {w w' : List (Except OsError Unit)}
    (answers : Answers replaying w h w') :
    Obliging h ∧ (w <+: switchAnswers h ∨ switchAnswers h <+: w) := by
  induction answers with
  | nil w => exact ⟨obliging_nil, Or.inr List.nil_prefix⟩
  | @cons c w w' h answers ih =>
    obtain ⟨obliging, alike⟩ := ih
    rw [Obliging, List.forall_mem_cons]
    cases c with
    | switch family on =>
      refine ⟨⟨Or.inl ⟨family, on, rfl⟩, obliging⟩, ?_⟩
      cases w with
      | nil => exact Or.inl List.nil_prefix
      | cons r rest =>
        exact alike.imp (fun shorter => List.cons_prefix_cons.mpr ⟨rfl, shorter⟩)
          fun longer => List.cons_prefix_cons.mpr ⟨rfl, longer⟩
    | set i s => exact ⟨⟨Or.inr ⟨_, rfl⟩, obliging⟩, alike⟩
    | launch arguments => exact ⟨⟨Or.inr ⟨_, rfl⟩, obliging⟩, alike⟩
    | send frame => exact ⟨⟨Or.inr ⟨_, rfl⟩, obliging⟩, alike⟩
    | terminate => exact ⟨⟨Or.inr ⟨_, rfl⟩, obliging⟩, alike⟩

/-- Let everything but the switches work in a lifetime, and leave out every operation that names
the interface `X`. In whatever world that is carried out: if everything but the switches works there
as well, and the switches answer alike, every operation that is left has the same result, the state
is the same without `X`, and the knobs of all other interfaces are written as before, in the same
order. If `X` was released and not tethered again, the state is the same altogether. There is such a
world. -/
theorem others_undisturbed {ω : Type} (answer : (c : Call) → ω → c.Answer × ω) (mode : String)
    (switches : Switches) (places : Places) (w : ω) (ops : List Operation) (X : String) :
    let l := (Lifetime.begin answer mode switches places w).performAll answer ops
    let left := ops.filter fun op => !op.names X
    Obliging l.exchanges →
      (∀ (ω' : Type) (answer' : (c : Call) → ω' → c.Answer × ω') (w' : ω'),
        let l' := (Lifetime.begin answer' mode switches places w').performAll answer' left
        Obliging l'.exchanges → Alike l.exchanges l'.exchanges →
          l.Aside X l' ∧
            ∀ before after, ops = before ++ .untether X :: after → .tether X ∉ after →
              l'.controller.posture = l.controller.posture) ∧
        ∃ (ω' : Type) (answer' : (c : Call) → ω' → c.Answer × ω') (w' : ω'),
          let l' := (Lifetime.begin answer' mode switches places w').performAll answer' left
          Obliging l'.exchanges ∧ Alike l.exchanges l'.exchanges := by
  intro l left obliging
  constructor
  · intro ω' answer' w' l' obliging' alike
    have boots : Alike (Lifetime.begin answer mode switches places w).exchanges
        (Lifetime.begin answer' mode switches places w').exchanges :=
      alike.of_prefix (Lifetime.exchanges_prefix_performAll _ _ ops)
        (Lifetime.exchanges_prefix_performAll _ _ left)
    have aside : l.Aside X l' :=
      Lifetime.aside_performAll ops (Lifetime.aside_begin boots) obliging obliging' alike
    refine ⟨aside, fun before after split never => ?_⟩
    rw [aside.posture]
    have released : l = ((Lifetime.begin answer mode switches places w).performAll answer
        (before ++ [.untether X])).performAll answer after := by
      have regrouped : ops = (before ++ [.untether X]) ++ after := by simp [split]
      change Lifetime.performAll answer _ ops = _
      rw [regrouped]
      exact List.foldl_append
    rw [released] at obliging ⊢
    refine Lifetime.without_performAll after ?_ never obliging
    rw [Lifetime.performAll_concat, Posture.without_eq_self_iff]
    have nodup := (Lifetime.past answer mode switches places w before).knobsSettled.nodup
    exact not_mem_of_untether (transition_of_follows (follows_run answer _ _ _)) nodup
  · let first := Lifetime.begin replaying mode switches places (switchAnswers l.exchanges)
    have answers : Answers replaying (switchAnswers l.exchanges)
        (first.performAll replaying left).exchanges (first.performAll replaying left).world :=
      Lifetime.answers_performAll replaying left
        (Lifetime.answers_begin replaying mode switches places _)
    exact ⟨_, replaying, switchAnswers l.exchanges, of_answers_replaying answers⟩

/-- One of two interfaces comes and goes, while a requester is registered whose second switch cannot
be written. -/
theorem undisturbed_by_wlan0 :
    let answers : List (Except OsError Unit) := [.ok (), .ok (), .ok (), .error (.errno 2)]
    let before : List Operation := [.tether "rndis0", .start [], .tether "wlan0", .enable "usb"]
    let after : List Operation := [.setServers 100 ["8.8.8.8"]]
    let ops := before ++ .untether "wlan0" :: after
    let left := ops.filter fun op => !op.names "wlan0"
    let l := (Lifetime.begin replaying "" {} {} answers).performAll replaying ops
    let l' := (Lifetime.begin replaying "" {} {} answers).performAll replaying left
    left = [.tether "rndis0", .start [], .enable "usb", .setServers 100 ["8.8.8.8"]] ∧
      Obliging l.exchanges ∧ Obliging l'.exchanges ∧ Alike l.exchanges l'.exchanges ∧
      l.Aside "wlan0" l' ∧ l'.controller.posture = l.controller.posture := by
  intro answers before after ops left l l'
  have obliging (ops : List Operation) :
      Obliging ((Lifetime.begin replaying "" {} {} answers).performAll replaying ops).exchanges :=
    (of_answers_replaying (Lifetime.answers_performAll replaying ops
      (Lifetime.answers_begin replaying "" {} {} answers))).1
  have same : switchAnswers l.exchanges = switchAnswers l'.exchanges := by decide +kernel
  have alike : Alike l.exchanges l'.exchanges := Or.inl ⟨[], by rw [List.append_nil, same]⟩
  obtain ⟨aside, released⟩ := (others_undisturbed replaying "" {} {} answers ops "wlan0"
    (obliging ops)).1 _ replaying answers (obliging left) alike
  exact ⟨by decide +kernel, obliging ops, obliging left, alike, aside,
    released before after rfl (by simp [after])⟩

end Controller

end NetControl.Tether
