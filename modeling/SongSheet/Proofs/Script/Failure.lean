import SongSheet.Proofs.Script.Call
import SongSheet.Proofs.Strict

/-!
# Scripts — what reading one fails with

A script is refused for its form, but that is not all that can go wrong with it. Before it is cut
into statements it may turn out not to be encodable, and an argument may be a literal that no value
belongs to: a set or a dictionary that looks up something that can change, or a sum whose integer no
float holds. These failures are not told as refusals of a sheet.

Everything that is wrong with an expression is listed in the order in which it is found
(`Literal.failures`), with no regard to what comes of it, so the list of a whole is put together
from the lists of its parts. **Reading fails with the first failure of the list**
(`failsFirst_ofExpr`, `failsFirst_readCalls`). So **a text is read or refused exactly if it is
encodable and the first failure of its statements, if they have any, is something that is no
literal** (`read_or_refused_iff`).
-/

set_option autoImplicit false

namespace SongSheet.Script

/-! ## 1. The first failure -/

/-- If nothing fails there is a result as described, and otherwise the error tells of the first
failure. -/
def FailsFirst {φ ε α : Type} (Tells : φ → ε → Prop) (x : Except ε α) (failures : List φ)
    (P : α → Prop) : Prop :=
  match failures with
  | [] => ∃ a, x = .ok a ∧ P a
  | f :: _ => ∃ e, x = .error e ∧ Tells f e

namespace FailsFirst

variable {φ ε α β : Type} {Tells : φ → ε → Prop} {x : Except ε α} {failures more : List φ}
  {P : α → Prop} {Q : β → Prop}

theorem ok {a : α} (h : P a) : FailsFirst Tells (.ok a) [] P := ⟨a, rfl, h⟩

theorem error {e : ε} {f : φ} (h : Tells f e) : FailsFirst Tells (.error e) (f :: failures) P :=
  ⟨e, rfl, h⟩

/-- What happens one after another fails with the failures of the one and then of the other. -/
theorem bind {g : α → Except ε β} (hx : FailsFirst Tells x failures P)
    (hg : ∀ a, P a → FailsFirst Tells (g a) more Q) :
    FailsFirst Tells (x >>= g) (failures ++ more) Q := by
  cases failures with
  | nil =>
    obtain ⟨a, rfl, ha⟩ := hx
    exact hg a ha
  | cons f failures =>
    obtain ⟨e, rfl, he⟩ := hx
    exact error he

/-- What is made of a result fails as the result does. -/
theorem map {g : α → β} (hx : FailsFirst Tells x failures P) (hg : ∀ a, P a → Q (g a)) :
    FailsFirst Tells (x >>= fun a => pure (g a)) failures Q := by
  have hbind : FailsFirst Tells (x >>= fun a => pure (g a)) (failures ++ []) Q :=
    hx.bind fun a ha => ok (hg a ha)
  rwa [List.append_nil] at hbind

theorem mapM {γ : Type} {f : γ → Except ε α} {failuresOf : γ → List φ}
    (h : ∀ c, FailsFirst Tells (f c) (failuresOf c) fun _ => True) (cs : List γ) :
    FailsFirst Tells (cs.mapM f) (cs.flatMap failuresOf) fun _ => True := by
  induction cs with
  | nil => exact ok trivial
  | cons c cs ih =>
    rw [List.mapM_cons, List.flatMap_cons]
    exact (h c).bind fun a _ => ih.map fun _ _ => trivial

end FailsFirst

/-! ## 2. Failures of literals -/

namespace Literal

/-- The container that can change in a value. -/
def container? : Literal → Option Container
  | .changeable container => some container
  | _ => none

mutual

/-- The container that can change in an expression, if that is a literal: in a tuple that of the
first item which has one. The only call that is a literal is that of an empty set. -/
def changing? : Expr → Option Container
  | .list _ => some .list
  | .dict _ => some .dict
  | .set _ | .call .. => some .set
  | .tuple items => firstChanging? items
  | _ => none

def firstChanging? : List Expr → Option Container
  | [] => none
  | e :: rest => (changing? e).or (firstChanging? rest)

end

/-- A look-up of an expression fails if it can change. -/
def lookupFailures (e : Expr) : List Failure :=
  ((changing? e).map .unhashable).toList

/-- A sum fails if it is none of a real and an imaginary number, or if its integer is too large. -/
def sumFailures (left right : Expr) : List Failure :=
  match signed? left, unsigned? right with
  | some (.int n), some .imaginary => if Binary64.isBeyond n then [.integerTooLarge] else []
  | some .float, some .imaginary => []
  | _, _ => [.notLiteral]

mutual

/-- Everything that is wrong with an expression as a literal, in the order in which it is found. -/
def failures : Expr → List Failure
  | .text _ | .bytes | .int _ | .float | .imaginary | .constant => []
  | .tuple items | .list items => itemFailures items
  | .set items => memberFailures items
  | .dict entries => entryFailures entries
  | .call (.name id) [] false => if id = "set" then [] else [.notLiteral]
  | .signed _ operand => if (unsigned? operand).isSome then [] else [.notLiteral]
  | .sum _ left right => sumFailures left right
  | _ => [.notLiteral]

def itemFailures : List Expr → List Failure
  | [] => []
  | e :: rest => failures e ++ itemFailures rest

/-- A member of a set is looked up as soon as it is known. -/
def memberFailures : List Expr → List Failure
  | [] => []
  | e :: rest => failures e ++ lookupFailures e ++ memberFailures rest

/-- A key is looked up once its value is known. -/
def entryFailures : List (Option Expr × Expr) → List Failure
  | [] => []
  | (none, _) :: _ => [.notLiteral]
  | (some key, value) :: rest =>
    failures key ++ failures value ++ lookupFailures key ++ entryFailures rest

end

theorem container?_ofTuple_cons (v : Literal) (vs : List Literal) :
    (ofTuple (v :: vs)).container? = v.container?.or (ofTuple vs).container? := by
  cases v <;> rfl

theorem container?_ofNumber (n : Number) : (ofNumber n).container? = none := by
  cases n <;> rfl

theorem failsFirst_asMember {v : Literal} {e : Expr} (h : v.container? = changing? e) :
    FailsFirst Eq (asMember v) (lookupFailures e) fun _ => True := by
  rw [lookupFailures, ← h]
  cases v with
  | changeable container => exact .error rfl
  | text | int | other => exact .ok trivial

theorem failsFirst_complex (left right : Expr) :
    FailsFirst Eq (complex (signed? left) (unsigned? right)) (sumFailures left right)
      fun v => v.container? = none := by
  rw [sumFailures]
  generalize signed? left = real
  generalize unsigned? right = imaginary
  rcases real with _ | n | _ | _ <;> rcases imaginary with _ | m | _ | _
  case some.int.some.imaginary =>
    dsimp only [complex]
    split_ifs
    · exact .error rfl
    · exact .ok rfl
  case some.float.some.imaginary => exact .ok rfl
  all_goals exact .error rfl

theorem failsFirst_signed (negative : Bool) (operand : Expr) :
    FailsFirst Eq (ofExpr (.signed negative operand)) (failures (.signed negative operand))
      fun v => v.container? = none := by
  unfold ofExpr
  rw [failures, signed?]
  cases unsigned? operand with
  | none => exact .error rfl
  | some n => exact .ok (container?_ofNumber _)

theorem failsFirst_call (function : Expr) (arguments : List Expr) (named : Bool) :
    FailsFirst Eq (ofExpr (.call function arguments named))
      (failures (.call function arguments named)) fun v => v.container? = some .set := by
  cases function with
  | name id =>
    match arguments, named with
    | [], false =>
      rw [ofExpr, failures]
      split_ifs
      · exact .ok rfl
      · exact .error rfl
    | [], true | _ :: _, _ => exact .error rfl
  | _ => exact .error rfl

-- By recursion on the expression. Items, members and entries are walked along in three ways, each
-- with its own time for look-ups, and a look-up needs to know what its member is (`changing?`).
mutual

/-- **What an expression stands for fails with the first of its failures.** -/
theorem failsFirst_ofExpr (e : Expr) :
    FailsFirst Eq (ofExpr e) (failures e) fun v => v.container? = changing? e := by
  match e with
  | .text _ | .bytes | .constant | .int _ | .float | .imaginary => exact .ok rfl
  | .name _ | .starred _ | .part | .assigned | .other => exact .error rfl
  | .tuple items =>
    rw [ofExpr, failures, changing?]
    exact (failsFirst_ofExprs items).map fun vs hvs => hvs
  | .list items =>
    rw [ofExpr, failures]
    exact (failsFirst_ofExprs items).map fun vs hvs => rfl
  | .set items =>
    rw [ofExpr, failures]
    exact (failsFirst_ofMembers items).map fun _ _ => rfl
  | .dict entries =>
    rw [ofExpr, failures]
    exact (failsFirst_ofEntries entries).map fun _ _ => rfl
  | .signed negative operand => exact failsFirst_signed negative operand
  | .sum _ left right =>
    rw [ofExpr, failures]
    exact failsFirst_complex left right
  | .call function arguments named => exact failsFirst_call function arguments named

theorem failsFirst_ofExprs (es : List Expr) :
    FailsFirst Eq (ofExprs es) (itemFailures es)
      fun vs => (ofTuple vs).container? = firstChanging? es := by
  match es with
  | [] => exact .ok rfl
  | e :: rest =>
    rw [ofExprs, itemFailures]
    refine (failsFirst_ofExpr e).bind fun v hv => (failsFirst_ofExprs rest).map fun vs hvs => ?_
    rw [container?_ofTuple_cons, hv, hvs, firstChanging?]

theorem failsFirst_ofMembers (es : List Expr) :
    FailsFirst Eq (ofMembers es) (memberFailures es) fun _ => True := by
  match es with
  | [] => exact .ok trivial
  | e :: rest =>
    rw [ofMembers, memberFailures, List.append_assoc]
    exact (failsFirst_ofExpr e).bind fun v hv =>
      (failsFirst_asMember hv).bind fun _ _ => failsFirst_ofMembers rest

theorem failsFirst_ofEntries (entries : List (Option Expr × Expr)) :
    FailsFirst Eq (ofEntries entries) (entryFailures entries) fun _ => True := by
  match entries with
  | [] => exact .ok trivial
  | (none, _) :: _ => exact .error rfl
  | (some key, value) :: rest =>
    rw [ofEntries, entryFailures, List.append_assoc, List.append_assoc]
    exact (failsFirst_ofExpr key).bind fun k hk => (failsFirst_ofExpr value).bind fun _ _ =>
      (failsFirst_asMember hk).bind fun _ _ => failsFirst_ofEntries rest

end

-- What is no literal comes to light ahead of a look-up behind it, but not of one before it.
example : failures (.set [.other, .list []]) = [.notLiteral, .unhashable .list] := rfl

example : failures (.dict [(some (.tuple [.list []]), .int 1), (none, .other)])
    = [.unhashable .list, .notLiteral] := rfl

end Literal

/-! ## 3. Failures of scripts -/

/-- There is a result, or the sheet is refused for what is wrong with it. -/
def Settles {α : Type} (x : Except ReadError α) : Prop :=
  (∃ a, x = .ok a) ∨ ∃ e, x = .error (.sheet e) ∧ e.OfSheet

theorem settles_ok {α : Type} (a : α) : Settles (.ok a) := .inl ⟨a, rfl⟩

theorem settles_error_iff {α : Type} {e : ReadError} :
    Settles (.error e : Except ReadError α) ↔ ∃ r, e = .sheet r ∧ r.OfSheet := by
  constructor
  · rintro (⟨a, ha⟩ | ⟨r, hr, hsheet⟩)
    · cases ha
    · exact ⟨r, Except.error.inj hr, hsheet⟩
  · rintro ⟨r, rfl, hsheet⟩
    exact .inr ⟨r, rfl, hsheet⟩

/-- How a failure is told: where something is no literal the sheet is refused, and everything else
is told as it is. -/
def IsToldBy : Literal.Failure → ReadError → Prop
  | .notLiteral, e => ∃ r, e = .sheet r ∧ r.OfSheet
  | .unhashable container, e => e = .unhashable container
  | .integerTooLarge, e => e = .integerTooLarge

/-- What reads a script settles exactly if the first failure is that something is no literal. -/
theorem settles_iff {α : Type} {x : Except ReadError α} {failures : List Literal.Failure}
    {P : α → Prop} (h : FailsFirst IsToldBy x failures P) :
    Settles x ↔ ∀ f ∈ failures.head?, f = .notLiteral := by
  cases failures with
  | nil =>
    obtain ⟨a, rfl, -⟩ := h
    exact iff_of_true (settles_ok a) nofun
  | cons f failures =>
    obtain ⟨e, rfl, he⟩ := h
    have hhead : (∀ g ∈ (f :: failures).head?, g = .notLiteral) ↔ f = .notLiteral := by simp
    rw [hhead, settles_error_iff]
    cases f with
    | notLiteral => exact iff_of_true he rfl
    | unhashable container | integerTooLarge =>
      cases he
      exact iff_of_false (by simp) nofun

/-- Everything that is wrong with a statement: it has to be a call of the function, and its
arguments have to be literals. -/
def Statement.failures (s : Statement) : List Literal.Failure :=
  match s.expr.bind callArguments? with
  | none => [.notLiteral]
  | some arguments => Literal.itemFailures arguments

theorem failsFirst_readArguments (line : Nat) (arguments : List Expr) :
    FailsFirst IsToldBy (readArguments line arguments) (Literal.itemFailures arguments)
      fun _ => True := by
  have harguments := Literal.failsFirst_ofExprs arguments
  rw [readArguments]
  cases hfailures : Literal.itemFailures arguments with
  | nil =>
    obtain ⟨vs, hvs, -⟩ := hfailures ▸ harguments
    rw [hvs]
    exact .ok trivial
  | cons f failures =>
    obtain ⟨_, he, rfl⟩ := hfailures ▸ harguments
    rw [he]
    cases f with
    | notLiteral => exact .error ⟨_, rfl, .inl rfl⟩
    | unhashable container => exact .error rfl
    | integerTooLarge => exact .error rfl

/-- The arguments of a statement of a text. -/
def readStatement (t : Text) (s : Statement) : Except ReadError (List Literal) :=
  let (line, column) := lineAndOctets t (t.length - s.left)
  match s.expr.bind callArguments? with
  | none => .error (.sheet (.scriptStatement line column))
  | some arguments => readArguments line arguments

/-- An encodable text is cut into statements, and they are read one after another. -/
theorem readCalls_of_encodable {t : Text} (ht : ∀ c ∈ t, c.isSurrogate = false ∧ c.val ≠ 0) :
    readCalls t = match statements? (closedLines t) with
      | none => .error (.sheet .scriptForm)
      | some statements => statements.mapM (readStatement (closedLines t)) := by
  have hnull : t.any (·.val = 0) = false := by simpa using fun c hc => (ht c hc).2
  rw [readCalls, surrogates?_eq_none fun c hc => (ht c hc).1]
  simp only [hnull, Bool.false_eq_true, if_false]
  rfl

theorem failsFirst_readStatement (t : Text) (s : Statement) :
    FailsFirst IsToldBy (readStatement t s) s.failures fun _ => True := by
  rw [readStatement, Statement.failures]
  cases s.expr.bind callArguments? with
  | none => exact .error ⟨_, rfl, .inl rfl⟩
  | some arguments => exact failsFirst_readArguments _ arguments

/-- **The calls of an encodable script fail with the first failure of its statements.** -/
theorem failsFirst_readCalls {t : Text} {statements : List Statement}
    (ht : ∀ c ∈ t, c.isSurrogate = false ∧ c.val ≠ 0)
    (h : statements? (closedLines t) = some statements) :
    FailsFirst IsToldBy (readCalls t) (statements.flatMap Statement.failures) fun _ => True := by
  rw [readCalls_of_encodable ht, h]
  exact FailsFirst.mapM (failsFirst_readStatement _) statements

/-- Surrogates and null characters are not refused. -/
theorem not_settles_readCalls {t : Text} (h : ¬∀ c ∈ t, c.isSurrogate = false ∧ c.val ≠ 0) :
    ¬Settles (readCalls t) := by
  by_cases hsurrogates : ∀ c ∈ t, c.isSurrogate = false
  · have hnull : t.any (·.val = 0) = true := by
      by_contra hnone
      refine h fun c hc => ⟨hsurrogates c hc, fun hval => hnone ?_⟩
      exact List.any_eq_true.mpr ⟨c, hc, decide_eq_true hval⟩
    rw [readCalls, surrogates?_eq_none hsurrogates]
    simp only [hnull, if_true]
    rw [settles_error_iff]
    simp
  · push Not at hsurrogates
    obtain ⟨c, hc, hsurrogate⟩ := hsurrogates
    obtain ⟨first, index, count, hfound⟩ := exists_surrogates hc (by simpa using hsurrogate)
    rw [readCalls, hfound]
    dsimp only
    rw [settles_error_iff]
    simp

theorem settles_readCalls_iff (t : Text) :
    Settles (readCalls t) ↔ (∀ c ∈ t, c.isSurrogate = false ∧ c.val ≠ 0)
      ∧ ∀ statements, statements? (closedLines t) = some statements →
        ∀ f ∈ (statements.flatMap Statement.failures).head?, f = .notLiteral := by
  by_cases ht : ∀ c ∈ t, c.isSurrogate = false ∧ c.val ≠ 0
  · rw [and_iff_right ht]
    cases hstatements : statements? (closedLines t) with
    | none =>
      have hform : readCalls t = .error (.sheet .scriptForm) := by
        rw [readCalls_of_encodable ht, hstatements]
      rw [hform]
      exact iff_of_true (settles_error_iff.mpr ⟨_, rfl, .inl rfl⟩) nofun
    | some statements =>
      rw [settles_iff (failsFirst_readCalls ht hstatements)]
      exact ⟨fun h _ hs => Option.some.inj hs ▸ h, fun h => h statements rfl⟩
  · exact iff_of_false (not_settles_readCalls ht) fun h => ht h.1

theorem failsBySheet_ofArguments (arguments : List Literal) :
    FailsBySheet (ofArguments arguments) := by
  unfold ofArguments
  split
  · exact Timeline.failsBySheet_read _ _ _
  · exact .wrongType rfl
  · exact .wrongType rfl

/-- Once the calls are known, the sheet alone is at fault. -/
theorem settles_read_iff (t : Text) : Settles (read t) ↔ Settles (readCalls t) := by
  cases hcalls : readCalls t with
  | error e =>
    have hread : read t = .error e := by rw [read, hcalls]; rfl
    rw [hread, settles_error_iff, settles_error_iff]
  | ok calls =>
    refine iff_of_true ?_ (settles_ok calls)
    rw [read, hcalls, ok_bind]
    -- No call at all, arguments of other types, a bad timeline: the sheet is refused for each.
    cases calls.getLast? with
    | none => exact settles_error_iff.mpr ⟨_, rfl, .inl rfl⟩
    | some arguments =>
      dsimp only
      have hfails := failsBySheet_ofArguments arguments
      cases harguments : ofArguments arguments with
      | ok score => exact settles_ok score
      | error e => exact settles_error_iff.mpr ⟨e, rfl, hfails e harguments⟩

/-- **A script is read or refused exactly if it is encodable and the first failure of its
statements, if they have any, is something that is no literal.** -/
theorem read_or_refused_iff (t : Text) :
    ((∃ score, read t = .ok score) ∨ ∃ e, read t = .error (.sheet e) ∧ e.OfSheet)
      ↔ (∀ c ∈ t, c.isSurrogate = false ∧ c.val ≠ 0)
        ∧ ∀ statements, statements? (closedLines t) = some statements →
          ∀ f ∈ (statements.flatMap Statement.failures).head?, f = .notLiteral :=
  (settles_read_iff t).trans (settles_readCalls_iff t)

/-- A list as a key is told as it is, and no sheet is refused. -/
theorem not_every_script_read_or_refused :
    ¬∀ t : Text, (∃ score, read t = .ok score) ∨ ∃ e, read t = .error (.sheet e) ∧ e.OfSheet := by
  intro h
  have hkey : read "parseGenshinImpactMusic(\x7b[]: 1\x7d)" = .error (.unhashable .list) := by
    decide +kernel
  rcases h "parseGenshinImpactMusic(\x7b[]: 1\x7d)" with ⟨score, hscore⟩ | ⟨e, he, -⟩
  · cases hkey.symm.trans hscore
  · cases hkey.symm.trans he

end SongSheet.Script
