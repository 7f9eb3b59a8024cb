import TypedPattern.Ensemble
import TypedPattern.Registry.Builtin

/-!
Sessions: registries, matchers and results under names. A step answers and changes the session, or fails and leaves
it as it is.
-/

namespace TypedPattern

open Pattern (Config)

inductive Runner where
  | single (m : Matcher)
  | ensemble (m : Ensemble)

/-- One match attempt in a mode, or all matches. -/
inductive Scope where
  | attempt (mode : Mode)
  | all
  deriving DecidableEq, Repr

inductive Outcome where
  | single (r : MatchResult)
  | list (l : MatchList)
  deriving DecidableEq, Repr

namespace Runner

def run (m : Runner) (scope : Scope) (haystack : String) : Except Error Outcome :=
  match m, scope with
  | single m, .attempt mode => (m.run mode haystack).map .single
  | single m, .all => (m.searchAll haystack).map .list
  | ensemble m, .attempt mode => (m.run mode haystack).map .single
  | ensemble m, .all => (m.searchAll haystack).map .list

end Runner

namespace Outcome

def toList : Outcome → MatchList
  | single r => [r]
  | list l => l

def replace : Outcome → List String → Except Error String
  | single r, values => r.replace values
  | list l, values => MatchList.replace l values

end Outcome

/-- Where a new registry comes from. -/
inductive Source where
  | builtin
  | empty
  | copy (id : String)
  deriving DecidableEq, Repr

inductive Step where
  | registry (id : String) (source : Source)
  | use (id : String)
  | register (name fragment : String) (converter : Converter)
  | names
  | contains (name : String)
  | resolve (name : String)
  | convert (name raw : String)
  | sameType (a b name : String)
  | matcher (id pattern : String) (config : Config)
  | ensemble (id : String) (patterns : List String) (strict : Bool) (config : Config)
  | run (id : String) (scope : Scope) (haystack : String) (saveAs : Option String)
  | collect (sources : List String) (saveAs : String)
  | replace (on : String) (values : List String)
  | replaceNamed (on : String) (values : List (String × String))
  | views (on : String)
  | get (on name : String) (index : Nat)
  | index (on name : String) (index : Nat)
  | equal (a b : String)

inductive Answer where
  | done
  | type (t : GroupType)
  | registry (r : Registry)
  | flag (b : Bool)
  | converted (v : Except ConvertError Value)
  | matcher (m : Matcher)
  | ensemble (m : Ensemble)
  | outcome (o : Outcome)
  | text (s : String)
  | texts (ts : List (Except Error String))
  | views (o : Outcome)
  | value (v : Option Value)

inductive SessionError where
  | noRegistry
  | noMatcher
  | noResult
  | noElement
  | differentKinds
  /-- A result was asked for a name without a value as if it had one. -/
  | missingName (name : String)
  | library (cause : Error)
  deriving DecidableEq, Repr

def SessionError.message : SessionError → String
  | noRegistry => "no such registry"
  | noMatcher => "no such matcher"
  | noResult => "no such result"
  | noElement => "no such element"
  | differentKinds => "results of different kinds"
  | missingName name => MatchResult.missingMessage name
  | library cause => cause.message

/-- `shared` is the registry outside all names; it is current where `current` is its reserved name. Each
registration takes the next origin. -/
structure Session where
  shared : Registry
  registries : List (String × Registry)
  current : String
  matchers : List (String × Runner)
  results : List (String × Outcome)
  nextOrigin : Nat

namespace Session

def sharedName : String :=
  "global"

def start : Session :=
  ⟨.builtin 0, [], sharedName, [], [], 1⟩

def put {α : Type} (id : String) (x : α) (xs : List (String × α)) : List (String × α) :=
  (id, x) :: xs.filter (·.1 != id)

def registry? (s : Session) (id : String) : Option Registry :=
  if id = sharedName then some s.shared else s.registries.lookup id

/-- The registry that patterns compile against. -/
def types (s : Session) : Registry :=
  (s.registry? s.current).getD s.shared

def setTypes (s : Session) (r : Registry) : Session :=
  if s.current = sharedName then { s with shared := r } else { s with registries := put s.current r s.registries }

def orElse {α : Type} (e : SessionError) : Option α → Except SessionError α
  | some x => .ok x
  | none => .error e

def lift {α : Type} (x : Except Error α) : Except SessionError α :=
  x.mapError .library

def result (s : Session) (id : String) : Except SessionError Outcome :=
  orElse .noResult (s.results.lookup id)

/-- One of the results that are kept under a name. -/
def element (s : Session) (id : String) (index : Nat) : Except SessionError MatchResult := do
  match ← s.result id with
  | .single r => .ok r
  | .list l => orElse .noElement l[index]?

def makeRegistry (s : Session) : Source → Except SessionError Registry
  | .builtin => .ok (.builtin s.nextOrigin)
  | .empty => .ok .empty
  | .copy id => orElse .noRegistry (s.registry? id)

def keep (s : Session) (saveAs : Option String) (o : Outcome) : Session :=
  match saveAs with
  | some id => { s with results := put id o s.results }
  | none => s

def outcomesOf (s : Session) : List String → Except SessionError MatchList
  | [] => .ok []
  | id :: rest => do
    let o ← s.result id
    let l ← s.outcomesOf rest
    .ok (o.toList ++ l)

def compare : Outcome → Outcome → Except SessionError Bool
  | .single a, .single b => .ok (a.same b)
  | .list a, .list b => .ok (MatchList.same a b)
  | _, _ => .error .differentKinds

def step (s : Session) : Step → Except SessionError (Answer × Session)
  | .registry id source => do
    let r ← s.makeRegistry source
    .ok (.done, { s with registries := put id r s.registries, current := id, nextOrigin := s.nextOrigin + 1 })
  | .use id => do
    let _ ← orElse .noRegistry (s.registry? id)
    .ok (.done, { s with current := id })
  | .register name fragment converter => do
    let r ← lift (s.types.register name fragment converter s.nextOrigin)
    let t ← lift (r.resolve name)
    .ok (.type t, { s.setTypes r with nextOrigin := s.nextOrigin + 1 })
  | .names => .ok (.registry s.types, s)
  | .contains name => .ok (.flag (s.types.contains name), s)
  | .resolve name => do
    let t ← lift (s.types.resolve name)
    .ok (.type t, s)
  | .convert name raw => do
    let t ← lift (s.types.resolve name)
    .ok (.converted (t.converter raw), s)
  | .sameType a b name => do
    let p ← orElse .noRegistry (s.registries.lookup a)
    let q ← orElse .noRegistry (s.registries.lookup b)
    let t ← lift (p.resolve name)
    let u ← lift (q.resolve name)
    .ok (.flag (t.same u), s)
  | .matcher id pattern config => do
    let m ← lift (Matcher.make s.types config pattern)
    .ok (.matcher m, { s with matchers := put id (.single m) s.matchers })
  | .ensemble id patterns strict config => do
    let m ← lift (Ensemble.make s.types config strict patterns)
    .ok (.ensemble m, { s with matchers := put id (.ensemble m) s.matchers })
  | .run id scope haystack saveAs => do
    let m ← orElse .noMatcher (s.matchers.lookup id)
    let o ← lift (m.run scope haystack)
    .ok (.outcome o, s.keep saveAs o)
  | .collect sources saveAs => do
    let l ← s.outcomesOf sources
    .ok (.outcome (.list l), s.keep (some saveAs) (.list l))
  | .replace on values => do
    let o ← s.result on
    let t ← lift (o.replace values)
    .ok (.text t, s)
  | .replaceNamed on values => do
    match ← s.result on with
    | .single r => do
      let t ← lift (r.replaceNamed values)
      .ok (.text t, s)
    | .list l => .ok (.texts (l.map (·.replaceNamed values)), s)
  | .views on => do
    let o ← s.result on
    .ok (.views o, s)
  | .get on name index => do
    let r ← s.element on index
    .ok (.value (r.get? name), s)
  | .index on name index => do
    let r ← s.element on index
    let v ← orElse (.missingName name) (r.get? name)
    .ok (.value (some v), s)
  | .equal a b => do
    let x ← orElse .differentKinds (s.results.lookup a)
    let y ← orElse .differentKinds (s.results.lookup b)
    let same ← compare x y
    .ok (.flag same, s)

end Session

end TypedPattern
