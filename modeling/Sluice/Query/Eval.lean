import Sluice.Query.Scope

/-!
# Running a query

`eval` gives the stream of a term's results for an input, `update` replaces what a term leads to.
Results carry the path that led to them when someone asked for it, so that one definition serves
for values and for paths. Both take fuel for how deeply terms may stand inside each other while
they run; definitions that call themselves use it up.
-/

namespace Sluice.Query

/-- The names in scope where a term is run, the innermost first. -/
inductive Env where
  | empty
  | value (name : String) (d : Datum) (rest : Env)
  /-- A parameter: a term with the scope it was written in. -/
  | filter (name : String) (body : Term) (home rest : Env)
  | function (name : String) (params : List Parameter) (body : Term) (rest : Env)
  | label (name : String) (number : Nat) (rest : Env)

/-- What a call leads to. -/
inductive Callee where
  | filter (body : Term) (home : Env)
  | function (params : List Parameter) (body : Term) (home : Env)

namespace Env

def value? (name : String) : Env → Option Datum
  | empty => none
  | value n d rest => if n = name then some d else value? name rest
  | filter _ _ _ rest | function _ _ _ rest | label _ _ rest => value? name rest

def label? (name : String) : Env → Option Nat
  | empty => none
  | label n number rest => if n = name then some number else label? name rest
  | value _ _ rest | filter _ _ _ rest | function _ _ _ rest => label? name rest

def callee? (name : String) (arity : Nat) : Env → Option Callee
  | empty => none
  | filter n body home rest =>
    if n = name ∧ arity = 0 then some (.filter body home) else callee? name arity rest
  | function n params body rest =>
    if n = name ∧ params.length = arity
    then some (.function params body (.function n params body rest))
    else callee? name arity rest
  | value _ _ rest | label _ _ rest => callee? name arity rest

/-- The scope of the built-in definitions. -/
def standard : Env :=
  prelude.foldl (fun env d => .function d.name d.params d.body env) .empty

end Env

/-- A datum, and the path that led to it, the last key first, if paths are asked for. -/
structure Spot where
  datum : Datum
  path : Option (List Datum)

namespace Spot

def plain (s : Spot) : Spot := ⟨s.datum, none⟩

/-- A new datum, which no path leads to. -/
def fresh (s : Spot) (d : Datum) : Results Spot :=
  match s.path with
  | none => .one ⟨d, none⟩
  | some _ => .raise s!"invalid path expression with input {d.json}"

/-- The parts to which a move leads; a part that is not there is passed over if it may be. -/
def follow (s : Spot) (m : Move × Bool) : Results Spot :=
  let parts := (m.1.parts s.datum).map fun (key, d) => ⟨d, s.path.map (key :: ·)⟩
  if m.2 then parts.recover fun _ => .done else parts

end Spot

def OrderOp.holds (op : OrderOp) (a b : Datum) : Bool :=
  match op, a.compare b with
  | equal, o => o == .eq
  | unequal, o => o != .eq
  | less, o => o == .lt
  | atMost, o => o != .gt
  | greater, o => o == .gt
  | atLeast, o => o != .lt

/-- Replaces the parts to which a move leads; a datum without such parts stays as it is if it
may. -/
def Move.change (m : Move × Bool) (f : Datum → Results Datum) (d : Datum) : Results Datum :=
  if m.2 && !m.1.fits d then .one d else .ofExcept (m.1.replace f d)

/-- Replaces the parts to which moves lead, one after another. -/
def Move.changeAll (f : Datum → Results Datum) : List (Move × Bool) → Datum → Results Datum
  | [], d => f d
  | m :: ms, d => Move.change m (Move.changeAll f ms) d

/-- The term that a parameter without parameters of its own stands for, if it only names another
one: so that passing on a parameter again and again costs nothing. -/
def Env.resolve (env : Env) (t : Term) : Term × Env :=
  match t with
  | .call name [] =>
    match env.callee? name 0 with
    | some (.filter body home) => (body, home)
    | _ => (t, env)
  | t => (t, env)

mutual

/-- The results of a term for an input. -/
def eval : Nat → Env → Term → Spot → Results Spot
  | 0, _, _, _ => .fault .exhausted
  | n + 1, env, t, s =>
    match t with
    | .identity => .one s
    | .descend =>
      .append (.one s) fun _ => (s.follow (.each, true)).bind (eval n env .descend)
    | .number q => s.fresh (.num q)
    | .text format parts =>
      (Results.chain (fun (acc : String) part =>
        match part with
        | .chars cs => .one (acc ++ cs)
        | .insert t => (eval n env t s.plain).bind fun x =>
            (Results.ofExcept (Native.format format x.datum)).map fun d => acc ++ d.text)
        parts "").bind fun text => s.fresh (.str text)
    | .array none => s.fresh (.arr [])
    | .array (some t) =>
      match (eval n env t s.plain).collect with
      | .ok spots => s.fresh (.arr (spots.map Spot.datum))
      | .error t => .fault t
    | .object fields =>
      (Results.chain (fun acc (field : Term × Option Term) =>
        (eval n env field.1 s.plain).bind fun key =>
          match field.2 with
          | some v => (eval n env v s.plain).map fun x => Datum.putField key.datum x.datum acc
          | none => (Results.ofExcept (s.datum.index key.datum)).map fun x =>
              Datum.putField key.datum x acc)
        fields []).bind fun fields => s.fresh (.obj fields)
    | .negative t =>
      (eval n env t s.plain).bind fun x => (Results.ofExcept (negate x.datum)).bind s.fresh
    | .pipe l r => (eval n env l s).bind (eval n env r)
    | .bind source pattern body =>
      (eval n env source s.plain).bind fun x =>
        (match_ n env pattern x.datum).bind fun env => eval n env body s
    | .binary op l r =>
      let pairs (f : Datum → Datum → Results Spot) : Results Spot :=
        (eval n env l s.plain).bind fun x => (eval n env r s.plain).bind fun y => f x.datum y.datum
      match op with
      | .both => .append (eval n env l s) fun _ => eval n env r s
      | .otherwise =>
        let kept := (eval n env l s).filter fun
          | .ok x => x.datum.isTrue
          | .error _ => true
        match kept with
        | .done => eval n env r s
        | kept => kept
      | .or => (eval n env l s.plain).bind fun x =>
          if x.datum.isTrue then s.fresh (.bool true)
          else (eval n env r s.plain).bind fun y => s.fresh (.bool y.datum.isTrue)
      | .and => (eval n env l s.plain).bind fun x =>
          if !x.datum.isTrue then s.fresh (.bool false)
          else (eval n env r s.plain).bind fun y => s.fresh (.bool y.datum.isTrue)
      | .order op => pairs fun x y => s.fresh (.bool (op.holds x y))
      | .arith op => pairs fun x y => (Results.ofExcept (arithmetic op x y)).bind s.fresh
      | .change .through =>
        (update n env l (fun d => (eval n env r ⟨d, none⟩).map Spot.datum) s.datum).bind s.fresh
      | .change c => (eval n env r s.plain).bind fun y =>
          let new (d : Datum) : Results Datum := match c with
            | .arith op => .ofExcept (arithmetic op d y.datum)
            | .default => .one (if d.isTrue then d else y.datum)
            | _ => .one y.datum
          (update n env l new s.datum).bind s.fresh
    | .choose branches otherwise =>
      branches.foldr (fun (branch : Term × Term) (next : Unit → Results Spot) => fun _ =>
        (eval n env branch.1 s.plain).bind fun x =>
          if x.datum.isTrue then eval n env branch.2 s else next ())
        (fun _ => match otherwise with
          | some t => eval n env t s
          | none => .one s) ()
    | .attempt body handler =>
      (eval n env body s).recover fun message =>
        match handler with
        | some h => eval n env h ⟨message, none⟩
        | none => .done
    | .fold kind source pattern args =>
      let binds := (eval n env source s.plain).bind fun x => match_ n env pattern x.datum
      match kind, args with
      | .reduce, [start, step] =>
        (eval n env start s).bind (binds.foldOver fun acc env => eval n env step acc)
      | .scan, [start, step] =>
        (eval n env start s).bind (binds.scanOver (fun acc env => eval n env step acc)
          fun _ y => .one y)
      | .scan, [start, step, shown] =>
        (eval n env start s).bind (binds.scanOver (fun acc env => eval n env step acc)
          fun env y => eval n env shown y)
      | _, _ => .raise "unknown fold"
    | .label name body => (eval n (.label name n env) body s).untilLeaving n
    | .leave name =>
      match env.label? name with
      | some number => .fault (.leaving number)
      | none => .raise "break"
    | .define name params body rest => eval n (.function name params body env) rest s
    | .call name args =>
      match env.callee? name args.length with
      | some (.filter body home) => eval n home body s
      | some (.function params body home) =>
        (enter n env home (params.zip args) s.datum).bind fun env => eval n env body s
      | none => control n env name args s
    | .named name =>
      match env.value? name with
      | some d => s.fresh d
      | none => .raise "unbound variable"
    | .walk start steps =>
      (eval n env start s).bind fun x =>
        (routes n env steps s.datum).bind fun route => Results.chain Spot.follow route x

/-- The ways that steps can mean, for all keys that their terms give: those of the first step are
chosen first. -/
def routes : Nat → Env → List (Step × Bool) → Datum → Results (List (Move × Bool))
  | 0, _, _, _ => .fault .exhausted
  | _ + 1, _, [], _ => .one []
  | n + 1, env, (step, optional) :: steps, d =>
    let found (t : Option Term) : Results Datum := match t with
      | some t => (eval n env t ⟨d, none⟩).map Spot.datum
      | none => .one .null
    let moves : Results Move := match step with
      | .each => .one .each
      | .index key => (found (some key)).map Move.key
      | .slice start stop => (found start).bind fun a => (found stop).map fun b => .slice a b
    moves.bind fun m => (routes n env steps d).map fun ms => (m, optional) :: ms

/-- The results of a function that no definition in scope gives. -/
def control : Nat → Env → String → List Term → Spot → Results Spot
  | 0, _, _, _, _ => .fault .exhausted
  | n + 1, env, name, args, s =>
    match name, args with
    | "empty", [] => .done
    | "error", [] => .fault (.raised s.datum)
    | "path", [t] => (eval n env t ⟨s.datum, some []⟩).bind fun x =>
        match x.path with
        | some path => s.fresh (.arr path.reverse)
        | none => .raise s!"invalid path expression with input {x.datum.json}"
    | "last", [t] =>
      match (eval n env t s).lastOr none with
      | .ok (some x) => .one x
      | .ok none => .done
      | .error t => .fault t
    | name, args =>
      match natives.find? fun f => f.1 = name && f.2.1 = args.length with
      | some (_, _, f) =>
        (Results.chain (fun (acc : List Datum) t => (eval n env t s.plain).map fun x =>
          acc ++ [x.datum]) args []).bind fun values => (f s.datum values).bind s.fresh
      | none => .raise "unknown function"

/-- The scope of a function's body for every choice of the values among its arguments. -/
def enter : Nat → Env → Env → List (Parameter × Term) → Datum → Results Env
  | 0, _, _, _, _ => .fault .exhausted
  | n + 1, env, home, params, d =>
    Results.chain (fun home (param : Parameter × Term) =>
      match param.1 with
      | .filter name =>
        let (body, scope) := env.resolve param.2
        .one (.filter name body scope home)
      | .value name => (eval n env param.2 ⟨d, none⟩).map fun x => .value name x.datum home)
      params home

/-- The scopes that arise when a datum is taken apart. -/
def match_ : Nat → Env → Pattern → Datum → Results Env
  | 0, _, _, _ => .fault .exhausted
  | n + 1, env, pattern, d =>
    match pattern with
    | .named name => .one (.value name d env)
    | .array items =>
      Results.chain (fun env (item : Nat × Pattern) =>
        (Results.ofExcept (d.index (.ofInt item.1))).bind fun x => match_ n env item.2 x)
        ((List.range items.length).zip items) env
    | .object fields =>
      Results.chain (fun env (field : Term × Pattern) =>
        (eval n env field.1 ⟨d, none⟩).bind fun key =>
          (Results.ofExcept (d.index key.datum)).bind fun x => match_ n env field.2 x)
        fields env

/-- A datum with what a term leads to replaced by what a function gives for it. Terms that compute
something, that may fail, or that can be left by a jump lead nowhere. -/
def update : Nat → Env → Term → (Datum → Results Datum) → Datum → Results Datum
  | 0, _, _, _, _ => .fault .exhausted
  | n + 1, env, t, f, d =>
    match t with
    | .identity => f d
    | .descend => (f d).bind (Move.change (.each, true) (update n env .descend f))
    | .pipe l r => update n env l (update n env r f) d
    | .binary .both l r => (update n env l f d).bind (update n env r f)
    | .binary .otherwise l r =>
      match (eval n env l ⟨d, none⟩).filter fun
        | .ok x => x.datum.isTrue
        | .error _ => true with
      | .done => update n env r f d
      | _ => update n env l f d
    | .bind source pattern body =>
      ((eval n env source ⟨d, none⟩).bind fun x => match_ n env pattern x.datum).foldOver
        (fun d env => update n env body f d) d
    | .choose branches otherwise =>
      branches.foldr (fun (branch : Term × Term) (next : Datum → Results Datum) => fun d =>
        (eval n env branch.1 ⟨d, none⟩).foldOver (fun d x =>
          if x.datum.isTrue then update n env branch.2 f d else next d) d)
        (fun d => match otherwise with
          | some t => update n env t f d
          | none => f d) d
    | .fold kind source pattern args =>
      match ((eval n env source ⟨d, none⟩).bind fun x => match_ n env pattern x.datum).collect,
          kind, args with
      | .error t, _, _ => .fault t
      | .ok envs, .reduce, [start, step] =>
        update n env start
          (envs.foldr (fun env (next : Datum → Results Datum) => update n env step next) f) d
      | .ok envs, .scan, [start, step] =>
        update n env start
          (envs.foldr (fun env (next : Datum → Results Datum) =>
            update n env step fun d => (f d).bind next) .one) d
      | .ok envs, .scan, [start, step, shown] =>
        update n env start
          (envs.foldr (fun env (next : Datum → Results Datum) =>
            update n env step fun d => (update n env shown f d).bind next) .one) d
      | _, _, _ => .raise "unknown fold"
    | .define name params body rest => update n (.function name params body env) rest f d
    | .call name args =>
      match env.callee? name args.length with
      | some (.filter body home) => update n home body f d
      | some (.function params body home) =>
        (enter n env home (params.zip args) d).foldOver (fun d env => update n env body f d) d
      | none =>
        if name = "empty" then .one d
        else if name = "error" then .fault (.raised d)
        else .raise s!"invalid path expression with input {d.json}"
    | .walk start steps =>
      update n env start (fun x => (routes n env steps d).foldOver
        (fun x route => Move.changeAll f route x) x) d
    | _ => .raise s!"invalid path expression with input {d.json}"

end

end Sluice.Query
