import RuleGraph.Graph.Build

/-!
# Why a rule cannot be built

`Fault` says what stands in the way of building a rule, one case for each error: a type that nobody
registered, parameters that its factory rejects, a call that leads nowhere or to a producer.
-/
namespace RuleGraph

namespace Workshop

/-- What stands in the way of building links: the error and its cause. -/
inductive LinkFault (w : Workshop) (links : List Link) : GraphError → Prop
  | unknown {type : String} {written : List Param} {negated : Bool}
      (mem : .filter type written negated ∈ links) (absent : w.registry.filter? type = none) :
      LinkFault w links (.unknownFilter type)
  | rejected {type : String} {written : List Param} {negated : Bool} {factory : FilterFactory}
      {e : NodeError} (mem : .filter type written negated ∈ links)
      (known : w.registry.filter? type = some factory)
      (failed : factory (w.config.nodeParams type written) = .error e) :
      LinkFault w links (.construction type e)
  | unresolved {name : String} (mem : .call name ∈ links) (absent : w.callee? name = none) :
      LinkFault w links (.unresolvedCall name)
  | producer {name : String} {callee : CompiledRule} (mem : .call name ∈ links)
      (visible : w.callee? name = some callee) (produced : callee.hasProducer = true) :
      LinkFault w links (.producerInCall name)

/-- What stands in the way of building a rule: a fault of its producer or of its links. -/
inductive Fault (w : Workshop) (body : RuleBody) : GraphError → Prop
  | unknown {decl : ProducerDecl} (declared : body.producer? = some decl)
      (absent : w.registry.producer? decl.name = none) : Fault w body (.unknownProducer decl.name)
  | rejected {decl : ProducerDecl} {factory : ProducerFactory} {e : NodeError}
      (declared : body.producer? = some decl)
      (known : w.registry.producer? decl.name = some factory)
      (failed : factory (w.config.nodeParams decl.name decl.params) = .error e) :
      Fault w body (.construction decl.name e)
  | link {e : GraphError} (fault : w.LinkFault body.chain e) : Fault w body e

variable {w : Workshop} {rule : String} {s s' : Supply} {e : GraphError}

theorem LinkFault.mono {links more : List Link} (h : w.LinkFault links e)
    (hsub : ∀ link ∈ links, link ∈ more) : w.LinkFault more e := by
  cases h with
  | unknown mem absent => exact .unknown (hsub _ mem) absent
  | rejected mem known failed => exact .rejected (hsub _ mem) known failed
  | unresolved mem absent => exact .unresolved (hsub _ mem) absent
  | producer mem visible produced => exact .producer (hsub _ mem) visible produced

theorem linkFault_of_buildFilter {type : String} {written : List Param} {negated : Bool}
    (h : w.buildFilter rule type written negated s = (.error e, s')) :
    w.LinkFault [.filter type written negated] e := by
  unfold buildFilter at h
  cases hknown : w.registry.filter? type with
  | none =>
    simp only [hknown, Prod.mk.injEq, Except.error.injEq] at h
    rw [← h.1]
    exact .unknown List.mem_cons_self hknown
  | some factory =>
    cases hfactory : factory (w.config.nodeParams type written) with
    | ok react => simp [hknown, hfactory] at h
    | error cause =>
      simp only [hknown, hfactory, Prod.mk.injEq, Except.error.injEq] at h
      rw [← h.1]
      exact .rejected List.mem_cons_self hknown hfactory

theorem linkFault_of_callSection {name : String} (h : w.callSection name = .error e) :
    w.LinkFault [.call name] e := by
  unfold callSection at h
  cases hvisible : w.callee? name with
  | none =>
    simp only [hvisible, Except.error.injEq] at h
    rw [← h]
    exact .unresolved List.mem_cons_self hvisible
  | some callee =>
    cases hflow : callee.flow with
    | fragment chain => simp [hvisible, hflow] at h
    | produced producer chain =>
      simp only [hvisible, hflow, Except.error.injEq] at h
      rw [← h]
      refine .producer List.mem_cons_self hvisible ?_
      simp [CompiledRule.hasProducer, CompiledRule.producer?, hflow, Flow.producer?]

theorem linkFault_of_buildLink {link : Link} (h : w.buildLink rule link s = (.error e, s')) :
    w.LinkFault [link] e := by
  cases link with
  | filter type written negated =>
    rw [buildLink] at h
    split at h
    · rename_i cause s₁ hfilter
      cases h
      exact linkFault_of_buildFilter hfilter
    · cases h
  | call name => exact linkFault_of_callSection (Prod.mk.inj h).1

theorem linkFault_of_buildLinks {links : List Link}
    (h : w.buildLinks rule links s = (.error e, s')) : w.LinkFault links e := by
  induction links generalizing s with
  | nil => cases h
  | cons link links ih =>
    rw [buildLinks] at h
    split at h
    · rename_i cause s₁ hlink
      cases h
      exact (linkFault_of_buildLink hlink).mono (by simp)
    · split at h
      · rename_i cause s₂ hlinks
        cases h
        exact (ih hlinks).mono fun l hl => List.mem_cons_of_mem _ hl
      · cases h

theorem fault_of_buildRule {rule : Rule} (h : w.buildRule rule s = (.error e, s')) :
    w.Fault rule.body e := by
  unfold buildRule at h
  cases hbody : rule.body with
  | fragment first rest =>
    simp only [hbody] at h
    split at h
    · rename_i hlink
      cases h
      exact .link ((linkFault_of_buildLink hlink).mono (by simp [RuleBody.chain]))
    · split at h
      · rename_i hlinks
        cases h
        refine .link ((linkFault_of_buildLinks hlinks).mono fun l hl => ?_)
        simp [RuleBody.chain, hl]
      · cases h
  | produced decl chain =>
    simp only [hbody] at h
    split at h
    · rename_i cause s₁ hproducer
      cases h
      unfold buildProducer at hproducer
      cases hknown : w.registry.producer? decl.name with
      | none =>
        simp only [hknown, Prod.mk.injEq, Except.error.injEq] at hproducer
        rw [← hproducer.1]
        exact .unknown rfl hknown
      | some factory =>
        cases hfactory : factory (w.config.nodeParams decl.name decl.params) with
        | ok program => simp [hknown, hfactory] at hproducer
        | error cause =>
          simp only [hknown, hfactory, Prod.mk.injEq, Except.error.injEq] at hproducer
          rw [← hproducer.1]
          exact .rejected rfl hknown hfactory
    · split at h
      · rename_i hlinks
        cases h
        exact .link (linkFault_of_buildLinks hlinks)
      · cases h

end Workshop
end RuleGraph
