import ProofTutor.Tactic.Basic

/-!
Which alternatives were taken. The choices of a tree are numbered, a probe after each alternative
reports it, and from the reports the tree without choices is found that does the same.
-/

namespace ProofTutor.Tactic

mutual

def number (next : Nat) : Tactic → Tactic × Nat
  | .atomic text m => (.atomic text m, next)
  | .sequence children m =>
    match numberAll next children with
    | (children, next) => (.sequence children m, next)
  | .choice _ first rest m =>
    match number (next + 1) first with
    | (first, after) =>
      match numberAll after rest with
      | (rest, after) => (.choice (some next) first rest m, after)
  | .wrap wrapper child m =>
    match number next child with
    | (child, next) => (.wrap wrapper child m, next)

def numberAll (next : Nat) : List Tactic → List Tactic × Nat
  | [] => ([], next)
  | t :: ts =>
    match number next t with
    | (t, next) =>
      match numberAll next ts with
      | (ts, next) => (t :: ts, next)

end

def numbered (t : Tactic) : Tactic :=
  (t.number 0).1

def probed (number? : Option Nat) (index : Nat) (t : Tactic) : Tactic :=
  match number? with
  | some n => .sequence [t, .atomic (Vocabulary.probe n index)]
  | none => t

mutual

def withProbes : Tactic → Tactic
  | .atomic text m => .atomic text m
  | .sequence children m => .sequence (withProbesAll children) m
  | .choice number? first rest m =>
    .choice number? (probed number? 0 (withProbes first)) (withProbesFrom number? 1 rest) m
  | .wrap wrapper child m => .wrap wrapper (withProbes child) m

def withProbesAll : List Tactic → List Tactic
  | [] => []
  | t :: ts => withProbes t :: withProbesAll ts

def withProbesFrom (number? : Option Nat) (index : Nat) : List Tactic → List Tactic
  | [] => []
  | t :: ts =>
    probed number? index (withProbes t) :: withProbesFrom number? (index + 1) ts

end

def instrument (t : Tactic) : Tactic × Tactic :=
  (t.numbered, t.numbered.withProbes)

def pick (first : Tactic) (rest : List Tactic) (index : Nat) (m : Messages) : Tactic :=
  ((first :: rest)[index]?.getD first).inheriting m

mutual

def selectWhere (number? : Option Nat) (index : Nat) : Tactic → Tactic
  | .atomic text m => .atomic text m
  | .sequence children m => .sequence (selectWhereAll number? index children) m
  | .choice own? first rest m =>
    if own? = number? then pick first rest index m
    else .choice own? (selectWhere number? index first) (selectWhereAll number? index rest) m
  | .wrap wrapper child m => .wrap wrapper (selectWhere number? index child) m

def selectWhereAll (number? : Option Nat) (index : Nat) : List Tactic → List Tactic
  | [] => []
  | t :: ts => selectWhere number? index t :: selectWhereAll number? index ts

end

def select (node index : Nat) (t : Tactic) : Tactic :=
  t.selectWhere (some node) index

def selectUnnumbered (t : Tactic) : Tactic :=
  t.selectWhere none 0

def reserved : Nat := 0xFFFFFFFFFFFFFFFF

mutual

def firstChoice? : Tactic → Option Nat
  | .atomic _ _ => none
  | .sequence children _ => firstChoiceOf? children
  | .choice number? _ _ _ => some (number?.getD reserved)
  | .wrap _ child _ => firstChoice? child

def firstChoiceOf? : List Tactic → Option Nat
  | [] => none
  | t :: ts => (firstChoice? t).or (firstChoiceOf? ts)

end

mutual

def choiceCount : Tactic → Nat
  | .atomic _ _ => 0
  | .sequence children _ => choiceCountOf children
  | .choice _ first rest _ => choiceCount first + choiceCountOf rest + 1
  | .wrap _ child _ => choiceCount child

def choiceCountOf : List Tactic → Nat
  | [] => 0
  | t :: ts => choiceCount t + choiceCountOf ts

end

abbrev Probe := Nat × Nat

def taken (probes : List Probe) (node : Nat) : Nat :=
  ((probes.reverse.find? (·.1 == node)).map (·.2)).getD 0

def resolveWithin? (probes : List Probe) : (rounds : Nat) → Tactic → Option Tactic
  | rounds, t =>
    match t.firstChoice? with
    | none => some t
    | some node =>
      match rounds with
      | 0 => none
      | rounds + 1 =>
        resolveWithin? probes rounds
          (if node = reserved then t.selectUnnumbered else t.select node (taken probes node))

/-- The tree without choices that the probes tell of. Every round removes a choice unless one
carries the reserved number, which no selection ever finds; then there is no such tree. -/
def resolve? (probes : List Probe) (t : Tactic) : Option Tactic :=
  resolveWithin? probes t.choiceCount t

def afterCommas : List Char → List (List Char)
  | [] => []
  | ',' :: ' ' :: rest => rest :: afterCommas rest
  | _ :: rest => afterCommas rest

def tails (source : List Char) : List (List Char) :=
  source :: afterCommas source

mutual

def allAlternatives : Tactic → List Tactic
  | .atomic _ _ => []
  | .sequence children _ => allAlternativesOf children
  | .choice _ first rest _ =>
    first :: rest ++ (allAlternatives first ++ allAlternativesOf rest)
  | .wrap _ child _ => allAlternatives child

def allAlternativesOf : List Tactic → List Tactic
  | [] => []
  | t :: ts => allAlternatives t ++ allAlternativesOf ts

end

def fired (tails : List (List Char)) (t : Tactic) : Bool :=
  let own := t.source true
  own ≠ "" && tails.any fun tail => (Text.stripHead? own.toList tail).isSome

def successMessageFor (t : Tactic) (effective : String) : Option String :=
  let tails := tails effective.toList
  ((t.allAlternatives.filterMap fun u =>
    if fired tails u then u.messages.success else none).head?).or t.messages.success

end ProofTutor.Tactic
