/-
**Rules that failed cannot be observed.**

Take a history of a knowledge base with rollback, leave out the rules that failed, and start again.
Every other rule is accepted again, and from then on nothing tells the two knowledge bases apart but
the ids of their nodes. This takes the keys of matches to be injective (`Session.hasStarted`): they
are made from ids, so keys that agree by chance could hide a match in one of the sessions only.

* `failures_invisible`: **every session over the one gets the replies of the same session over the
  other**, up to ids;
* `twoPersons_failure_invisible`: the ids really differ.
-/

import RuleNet.Proofs.Build.Meaning
import RuleNet.Proofs.Session.Renumbered

namespace RuleNet

namespace KnowledgeBase

variable {config : BuildConfig} {attempts : List (Rule × Outcome RuleHandle)} {kb : KnowledgeBase}

/-- **Failed rules are invisible.** With rollback, the rules that were accepted in a history are all
accepted when they are added to a new knowledge base of the same configuration. The two knowledge
bases agree under a renumbering of the nodes that keeps their order: in the nodes with their kinds,
parents and children, in the roots, in both registries and in the rules. And sessions over the two
that are asked the same are served alike. The same objects enter and leave, the agendas list the
same matches in the same order, and the same matches fire, with the same failures, log lines and
callbacks; after every request the sessions still correspond. -/
theorem failures_invisible (grown : Grown config .standard attempts kb)
    (rollback : config.rollback = true) :
    ∃ handles numbers, (withoutFailures config attempts).outcome = .ok handles ∧
      (withoutFailures config attempts).after.Image numbers kb ∧
      ∀ bound requests, List.Forall₂ (Reply.Image numbers numbers.answer)
        ((Session.openOver (withoutFailures config attempts).after bound).serveAll requests)
        ((Session.openOver kb bound).serveAll requests) := by
  obtain ⟨handles, numbers, accepts, twins⟩ := grown.replays rollback
  obtain ⟨others, twin⟩ := withoutFailures_grown config attempts
  have layered := (twin.realizes fun _ attempted => attempted).1.layered
  refine ⟨handles, numbers, accepts, twins.image, fun bound requests => ?_⟩
  exact (Session.image_openOver twins.image layered bound).serveAll requests

/-- Every person, and two persons, after a rule between them failed. -/
def twoPersonsAfterFailure : KnowledgeBase :=
  ((((KnowledgeBase.new default .standard).addRule everyPerson).after.addRule
    twoPersonsOr).after.addRule twoPersons).after

/-- The rule that failed used up ids, and the agendas differ in nothing else. -/
theorem twoPersons_failure_invisible :
    ∃ (twin : KnowledgeBase) (numbers : Renumbering),
      twoPersonsAfterFailure.rules.length = 2 ∧
      twin.rules.map RuleHandle.terminal ≠
        twoPersonsAfterFailure.rules.map RuleHandle.terminal ∧
      twin.Image numbers twoPersonsAfterFailure ∧
      ∀ bound requests, List.Forall₂ (Reply.Image numbers numbers.answer)
        ((Session.openOver twin bound).serveAll requests)
        ((Session.openOver twoPersonsAfterFailure bound).serveAll requests) := by
  have grown : Grown default .standard _ twoPersonsAfterFailure :=
    ((Grown.new.addRule everyPerson).addRule twoPersonsOr).addRule twoPersons
  obtain ⟨handles, numbers, accepts, image, replies⟩ := failures_invisible grown rfl
  exact ⟨_, numbers, by decide +kernel, by decide +kernel, image, replies⟩

end KnowledgeBase

end RuleNet
