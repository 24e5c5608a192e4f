import JsonSchema.Pattern.Regex

set_option autoImplicit false

/-!
Search in time linear in the text. All runs through an expression are followed at once: a mark on a
set of characters says that some run has just read a character there. Each part keeps, for the place
reached, whether it matches the empty text, whether a run inside it can end, and whether anything in
it can change before a new run begins in it.
-/

namespace JsonSchema.Pattern

open Text (CharSet)

inductive Matcher where
  | empty
  | chars (set : CharSet) (marked : Bool)
  | look (look : Look) (holds : Bool)
  | seq (first second : Matcher) (blank done live : Bool)
  | alt (first second : Matcher) (blank done live : Bool)
  | star (body : Matcher) (done live : Bool)

namespace Matcher

def blank : Matcher → Bool
  | .empty => true
  | .chars _ _ => false
  | .look _ holds => holds
  | .seq _ _ blank _ _ => blank
  | .alt _ _ blank _ _ => blank
  | .star _ _ _ => true

def done : Matcher → Bool
  | .empty => false
  | .chars _ marked => marked
  | .look _ _ => false
  | .seq _ _ _ done _ => done
  | .alt _ _ _ done _ => done
  | .star _ done _ => done

-- Whether there is a mark or a condition in the expression. Without them it stays as it is until a
-- new run begins in it.
def live : Matcher → Bool
  | .empty => false
  | .chars _ marked => marked
  | .look _ _ => true
  | .seq _ _ _ _ live => live
  | .alt _ _ _ _ live => live
  | .star _ _ live => live

def mkSeq (a b : Matcher) : Matcher :=
  .seq a b (a.blank && b.blank) (b.done || (a.done && b.blank)) (a.live || b.live)

def mkAlt (a b : Matcher) : Matcher :=
  .alt a b (a.blank || b.blank) (a.done || b.done) (a.live || b.live)

def mkStar (body : Matcher) : Matcher := .star body body.done body.live

def power (m : Matcher) (n : Nat) : Matcher :=
  match n with
  | 0 => .empty
  | 1 => m
  | n + 2 => mkSeq (power m ((n + 2) / 2)) (power m (n + 2 - (n + 2) / 2))
termination_by n
decreasing_by all_goals omega

def joinPairs (op : Matcher → Matcher → Matcher) : List Matcher → List Matcher
  | a :: b :: rest => op a b :: joinPairs op rest
  | row => row

theorem length_joinPairs_le (op : Matcher → Matcher → Matcher) :
    ∀ n (row : List Matcher), row.length ≤ n → (joinPairs op row).length ≤ row.length := by
  intro n
  induction n with
  | zero => intro row hr; cases row with
    | nil => simp [joinPairs]
    | cons => simp at hr
  | succ n ih =>
    intro row hr
    match row with
    | [] => simp [joinPairs]
    | [_] => simp [joinPairs]
    | _ :: _ :: row =>
      have := ih row (by simp at hr; omega)
      simp only [joinPairs, List.length_cons]; omega

theorem length_joinPairs_lt (op : Matcher → Matcher → Matcher) (a b : Matcher)
    (rest : List Matcher) :
    (joinPairs op (a :: b :: rest)).length < (a :: b :: rest).length := by
  have := length_joinPairs_le op _ rest (Nat.le_refl _)
  simp only [joinPairs, List.length_cons]; omega

def joinAll (op : Matcher → Matcher → Matcher) (unit : Matcher) : List Matcher → Matcher
  | [] => unit
  | [m] => m
  | a :: b :: rest => joinAll op unit (joinPairs op (a :: b :: rest))
termination_by row => row.length
decreasing_by exact length_joinPairs_lt op a b rest

mutual

def ofRegex (holds : Look → Bool) : Regex → Matcher
  | .empty => .empty
  | .literal row => joinAll mkSeq .empty (row.map fun c => .chars (.ofChars [c]) false)
  | .oneOf set => .chars set false
  | .look condition => .look condition (holds condition)
  | .repeated least greatest _ body =>
    let m := ofRegex holds body
    match greatest with
    | none => if least = 0 then mkStar m else mkSeq (power m least) (mkStar m)
    | some n => mkSeq (power m least) (power (mkAlt m .empty) (n - least))
  | .capture _ body => ofRegex holds body
  | .concat parts => joinAll mkSeq .empty (ofRegexes holds parts)
  | .union branches => joinAll mkAlt (.chars .empty false) (ofRegexes holds branches)

def ofRegexes (holds : Look → Bool) : List Regex → List Matcher
  | [] => []
  | r :: rest => ofRegex holds r :: ofRegexes holds rest

end

-- Reads a character; `holds` gives the conditions behind it. A new run begins in a part where
-- `enter` says so, or where a run of the part before it ends.
def step (holds : Look → Bool) (c : Char) (enter : Bool) (m : Matcher) : Matcher :=
  if !enter && !m.live then m
  else
    match m with
    | .empty => .empty
    | .chars set _ => .chars set (enter && set.contains c)
    | .look l _ => .look l (holds l)
    | .seq a b _ _ _ =>
      mkSeq (step holds c enter a) (step holds c (a.done || (enter && a.blank)) b)
    | .alt a b _ _ _ => mkAlt (step holds c enter a) (step holds c enter b)
    | .star body _ _ => mkStar (step holds c (enter || body.done) body)

def findsFrom (m : Matcher) : List Char → Bool
  | [] => m.done || m.blank
  | c :: rest =>
    m.done || m.blank
      || findsFrom (m.step (fun l => l.holds (some c) rest.head?) c true) rest

end Matcher

def Regex.finds (r : Regex) (text : List Char) : Bool :=
  (Matcher.ofRegex (fun l => l.holds none text.head?) r).findsFrom text

end JsonSchema.Pattern
