import CatalogReplication.Proofs.Lock.NodeName
import CatalogReplication.Proofs.Lock.Use
import CatalogReplication.Proofs.Text.Cut

/-!
# The books of a manager on a service

A manager on a coordination service writes down twice which locks it has: in the locks that it
holds and in their states. Both agree with what went on between it and the service, wherever the
service declines or fails (`Desk.Books`), and there is only one way to tell what went on from what
the service heard and answered (`Desk.Books.unique`). So no lock is asked for while it is out, and
none is given back that isn't; when a manager was disposed of, each lock that the service ever
granted was given back exactly once (`Desk.books_balance`).

A call either asks for a lock that isn't out or gives back one that is (`Exchange.Fits`), and what
it does to the manager is what its answer does to the lock (`Desk.Books.exchanged`). A report leaves
the books as they are, since it is about locks that are out and never says that one is unlocked
(`Desk.Books.report`).
-/

namespace CatalogReplication.Lock

open Stateful (Stays)

/-! ### Exchanges with a service -/

/-- How an answer is put down. -/
def Reply.word : Reply → String
  | granted => " ok"
  | declined => " refused"
  | failed _ => " failed"

/-- A call to a service about a lock, and its answer. -/
inductive Exchange where
  | acquire (r : Requirement) (answer : Reply)
  | release (r : Requirement) (answer : Reply)

namespace Exchange

/-- What the service hears of an exchange; how it answers when it is to take a lock back isn't put
down. -/
def text (sv : Service) : Exchange → String
  | acquire r a => Desk.acquireCall sv a.word r
  | release r _ => Desk.releaseCall sv r

/-- What the service answers by itself. -/
def usual (sv : Service) : Exchange → Reply
  | acquire r _ => if sv.refused.contains (nodeName r.key) then .declined else .granted
  | release .. => .granted

def answer : Exchange → Reply
  | acquire _ a => a
  | release _ a => a

/-- The same call with another answer. -/
def answered (a : Reply) : Exchange → Exchange
  | acquire r _ => acquire r a
  | release r _ => release r a

/-- The service grants a lock. -/
def grants (r : Requirement) : Exchange → Bool
  | acquire r' .granted => r == r'
  | _ => false

/-- The service takes a lock back. If it declines, it has nothing to take back any more. -/
def returns (r : Requirement) : Exchange → Bool
  | release _ (.failed _) => false
  | release r' _ => r == r'
  | acquire .. => false

end Exchange

variable {r : Requirement} {x : Exchange} {xs ys : List Exchange} {sv : Service}

/-- A lock is out if the service granted it and hasn't taken it back since then. -/
def IsOut (r : Requirement) (xs : List Exchange) : Prop :=
  ∃ before x after, xs = before ++ x :: after ∧ x.grants r = true ∧
    ∀ y ∈ after, y.returns r = false

/-- A lock is asked for while it isn't out, and given back while it is. -/
def Exchange.Fits (before : List Exchange) : Exchange → Prop
  | acquire r _ => ¬ IsOut r before
  | release r _ => IsOut r before

/-- Each exchange fits those before it. -/
def Proper (xs : List Exchange) : Prop :=
  ∀ before x after, xs = before ++ x :: after → x.Fits before

/-- The answers are those that were laid down, then the ones that the service gives by itself. -/
def Answered (sv : Service) (replies : List Reply) (xs : List Exchange) : Prop :=
  ∀ (i : Nat) (x : Exchange), xs[i]? = some x → x.answer = replies[i]?.getD (x.usual sv)

/-- Every lock that the service granted was given back exactly once before it was granted again, and
none is out. -/
def Settled (xs : List Exchange) : Prop :=
  ∀ r, ¬ IsOut r xs ∧ ∀ before x after, xs = before ++ x :: after → x.grants r = true →
    (after.takeWhile fun y => !y.grants r).countP (Exchange.returns r) = 1

/-- Where a list is taken apart that has one more entry. -/
theorem split_snoc {α : Type} {xs before after : List α} {x y : α}
    (h : xs ++ [x] = before ++ y :: after) :
    after = [] ∧ xs = before ∧ x = y ∨
      ∃ rest, after = rest ++ [x] ∧ xs = before ++ y :: rest := by
  rcases List.eq_nil_or_concat after with rfl | ⟨rest, z, rfl⟩
  · obtain ⟨hxs, hxy⟩ := List.append_inj' h rfl
    exact .inl ⟨rfl, hxs, List.singleton_inj.1 hxy⟩
  · rw [List.concat_eq_append, ← List.cons_append, ← List.append_assoc] at h
    obtain ⟨hxs, hxz⟩ := List.append_inj' h rfl
    rw [List.concat_eq_append, List.singleton_inj.1 hxz]
    exact .inr ⟨rest, rfl, hxs⟩

theorem not_isOut_nil : ¬ IsOut r [] := by
  rintro ⟨before, x, after, h, -⟩
  simp at h

theorem isOut_snoc_iff :
    IsOut r (xs ++ [x]) ↔ x.grants r = true ∨ IsOut r xs ∧ x.returns r = false := by
  constructor
  · rintro ⟨before, y, after, h, hgrants, hafter⟩
    rcases split_snoc h with ⟨-, -, rfl⟩ | ⟨rest, rfl, hxs⟩
    · exact .inl hgrants
    · refine .inr ⟨⟨before, y, rest, hxs, hgrants, fun z hz => ?_⟩, ?_⟩
      · exact hafter z (List.mem_append_left _ hz)
      · exact hafter x (List.mem_append_right _ (List.mem_singleton_self x))
  · rintro (hgrants | ⟨⟨before, y, after, rfl, hgrants, hafter⟩, hx⟩)
    · exact ⟨xs, x, [], rfl, hgrants, nofun⟩
    · refine ⟨before, y, after ++ [x], by simp, hgrants, fun z hz => ?_⟩
      rcases List.mem_append.1 hz with hz | hz
      · exact hafter z hz
      · rw [List.mem_singleton.1 hz]
        exact hx

theorem Exchange.Fits.not_isOut (h : x.Fits xs) (hx : x.grants r = true) : ¬ IsOut r xs := by
  cases x with
  | acquire r' a =>
    cases a with
    | granted =>
      obtain rfl : r = r' := beq_iff_eq.1 hx
      exact h
    | declined | failed e => cases hx
  | release r' a => cases hx

theorem Exchange.Fits.isOut (h : x.Fits xs) (hx : x.returns r = true) : IsOut r xs := by
  cases x with
  | acquire r' a => cases hx
  | release r' a =>
    cases a with
    | granted | declined =>
      obtain rfl : r = r' := beq_iff_eq.1 hx
      exact h
    | failed e => cases hx

theorem Exchange.returns_of_grants (hx : x.grants r = true) : x.returns r = false := by
  cases x with
  | acquire r' a => rfl
  | release r' a => cases hx

theorem proper_nil : Proper [] := by
  intro before x after h
  simp at h

theorem Proper.snoc (h : Proper xs) (hx : x.Fits xs) : Proper (xs ++ [x]) := by
  intro before y after hsplit
  rcases split_snoc hsplit with ⟨-, rfl, rfl⟩ | ⟨rest, -, hxs⟩
  · exact hx
  · exact h before y rest hxs

theorem Proper.left (h : Proper (xs ++ ys)) : Proper xs := by
  intro before x after hxs
  refine h before x (after ++ ys) ?_
  rw [hxs, List.append_assoc, List.cons_append]

/-- The grants of a lock are its returns, and one more if it is out. -/
theorem Proper.countP_grants (h : Proper xs) (r : Requirement) :
    (IsOut r xs → xs.countP (Exchange.grants r) = xs.countP (Exchange.returns r) + 1) ∧
    (¬ IsOut r xs → xs.countP (Exchange.grants r) = xs.countP (Exchange.returns r)) := by
  induction xs using List.reverseRecOn with
  | nil => exact ⟨fun hout => absurd hout not_isOut_nil, fun _ => rfl⟩
  | append_singleton xs x ih =>
    obtain ⟨hout, hin⟩ := ih h.left
    have hfits : x.Fits xs := h xs x [] rfl
    rw [isOut_snoc_iff, List.countP_append, List.countP_append, List.countP_singleton,
      List.countP_singleton]
    cases hgrants : x.grants r with
    | true =>
      have hcount := hin (hfits.not_isOut hgrants)
      rw [Exchange.returns_of_grants hgrants]
      exact ⟨fun _ => congrArg (· + 1) hcount, fun hnot => absurd (.inl rfl) hnot⟩
    | false =>
      -- No grant: the lock was out before, or the exchange doesn't return it.
      cases hreturns : x.returns r with
      | true =>
        have hcount := hout (hfits.isOut hreturns)
        exact ⟨fun hnot => by simp at hnot, fun _ => hcount⟩
      | false => simpa using ⟨hout, hin⟩

theorem Proper.settled (h : Proper xs) (hin : ∀ r, ¬ IsOut r xs) : Settled xs := by
  refine fun r => ⟨hin r, fun before x after hxs hx => ?_⟩
  have hsplit := List.takeWhile_append_dropWhile (p := fun y => !y.grants r) (l := after)
  have hnext := List.head?_dropWhile_not (fun y => !y.grants r) after
  have hnone : (after.takeWhile fun y => !y.grants r).countP (Exchange.grants r) = 0 := by
    refine List.countP_eq_zero.2 fun y hy => ?_
    simpa using List.mem_takeWhile_imp hy
  generalize after.takeWhile (fun y => !y.grants r) = kept at hsplit hnone ⊢
  generalize after.dropWhile (fun y => !y.grants r) = rest at hsplit hnext
  rw [← hsplit, ← List.cons_append, ← List.append_assoc] at hxs
  subst hxs
  -- Up to the next grant, or to the end, the lock has come back.
  have hback : ¬ IsOut r (before ++ x :: kept) := by
    cases rest with
    | nil => simpa using hin r
    | cons y rest => exact (h _ y rest rfl).not_isOut (by simpa using hnext)
  have hcounts := (h.left.countP_grants r).2 hback
  have hout : ¬ IsOut r before := (h.left before x kept rfl).not_isOut hx
  have hbefore := (h.left.left.countP_grants r).2 hout
  rw [List.countP_append, List.countP_append, List.countP_cons_of_pos hx,
    List.countP_cons_of_neg (by simp [Exchange.returns_of_grants hx])] at hcounts
  omega

/-! ### What a service hears -/

open Desk (serviceKind nodePath acquireCall releaseCall)

theorem toList_acquireCall (word : String) (r : Requirement) :
    (acquireCall sv word r).toList = (serviceKind r.kind).toList ++ ' ' ::
      ("acquire".toList ++ ' ' :: (sv.basePath.toList ++
        ((nodeName r.key).toList ++ word.toList))) := by
  have htext : acquireCall sv word r =
      serviceKind r.kind ++ " acquire " ++ (sv.basePath ++ nodeName r.key) ++ word := rfl
  simp [htext, String.toList_append]

theorem toList_releaseCall (r : Requirement) :
    (releaseCall sv r).toList = (serviceKind r.kind).toList ++ ' ' ::
      ("release".toList ++ ' ' :: (sv.basePath.toList ++ (nodeName r.key).toList)) := by
  have htext : releaseCall sv r =
      serviceKind r.kind ++ " release " ++ (sv.basePath ++ nodeName r.key) := rfl
  simp [htext, String.toList_append]

/-- The first two words of a call are told apart from the rest. -/
theorem call_inj {k k' : Kind} {verb verb' rest rest' : List Char} (hverb : ' ' ∉ verb)
    (hverb' : ' ' ∉ verb') (h : (serviceKind k).toList ++ ' ' :: (verb ++ ' ' :: rest) =
      (serviceKind k').toList ++ ' ' :: (verb' ++ ' ' :: rest')) :
    k = k' ∧ verb = verb' ∧ rest = rest' := by
  have hplain : ∀ k, ' ' ∉ (serviceKind k).toList := by
    intro k
    cases k <;> decide
  obtain ⟨hkind, h⟩ := Text.append_cons_inj (hplain k) (hplain k') h
  obtain ⟨hverb, hrest⟩ := Text.append_cons_inj hverb hverb' h
  refine ⟨?_, hverb, hrest⟩
  revert hkind
  cases k <;> cases k' <;> decide

theorem Reply.toList_word (a : Reply) : ∃ rest, a.word.toList = ' ' :: rest := by
  cases a with
  | granted => exact ⟨"ok".toList, rfl⟩
  | declined => exact ⟨"refused".toList, rfl⟩
  | failed e =>
    have hword : (Reply.failed e).word = " failed" := rfl
    rw [hword]
    exact ⟨"failed".toList, rfl⟩

theorem eq_of_kind_of_name {r r' : Requirement} (hkind : r.kind = r'.kind)
    (hname : (nodeName r.key).toList = (nodeName r'.key).toList) : r = r' := by
  obtain ⟨k, key⟩ := r
  obtain ⟨k', key'⟩ := r'
  obtain rfl : k = k' := hkind
  obtain rfl : key = key' := nodeName_inj (String.toList_inj.1 hname)
  rfl

/-- What was called is read off what the service heard. -/
theorem Exchange.answered_of_text {y : Exchange} (h : x.text sv = y.text sv) :
    x.answered y.answer = y := by
  have hlist := congrArg String.toList h
  cases x with
  | acquire r a =>
    cases y with
    | acquire r' a' =>
      rw [text, text, toList_acquireCall, toList_acquireCall] at hlist
      obtain ⟨hkind, -, hrest⟩ := call_inj (by decide) (by decide) hlist
      have hwords := List.append_cancel_left hrest
      -- What is put down of the answer begins with a blank, and no name of a node has one.
      have hname : (nodeName r.key).toList = (nodeName r'.key).toList := by
        obtain ⟨w, hw⟩ := a.toList_word
        obtain ⟨w', hw'⟩ := a'.toList_word
        rw [hw, hw'] at hwords
        exact (Text.append_cons_inj (not_mem_nodeName (.inr rfl) r.key)
          (not_mem_nodeName (.inr rfl) r'.key) hwords).1
      rw [eq_of_kind_of_name hkind hname]
      rfl
    | release r' a' =>
      rw [text, text, toList_acquireCall, toList_releaseCall] at hlist
      obtain ⟨-, hverb, -⟩ := call_inj (by decide) (by decide) hlist
      exact absurd hverb (by decide)
  | release r a =>
    cases y with
    | acquire r' a' =>
      rw [text, text, toList_acquireCall, toList_releaseCall] at hlist
      obtain ⟨-, hverb, -⟩ := call_inj (by decide) (by decide) hlist
      exact absurd hverb (by decide)
    | release r' a' =>
      rw [text, text, toList_releaseCall, toList_releaseCall] at hlist
      obtain ⟨hkind, -, hrest⟩ := call_inj (by decide) (by decide) hlist
      rw [eq_of_kind_of_name hkind (List.append_cancel_left hrest)]
      rfl

theorem Exchange.usual_answered (x : Exchange) (a : Reply) :
    (x.answered a).usual sv = x.usual sv := by
  cases x <;> rfl

theorem Exchange.answered_answer (x : Exchange) : x.answered x.answer = x := by
  cases x <;> rfl

theorem Answered.snoc {replies : List Reply} (h : Answered sv replies xs)
    (hx : x.answer = (replies.drop xs.length).head?.getD (x.usual sv)) :
    Answered sv replies (xs ++ [x]) := by
  intro i y hy
  rw [List.head?_drop] at hx
  rcases Nat.lt_or_ge i xs.length with hi | hi
  · rw [List.getElem?_append_left hi] at hy
    exact h i y hy
  · rw [List.getElem?_append_right hi, List.getElem?_singleton] at hy
    split at hy
    next hzero =>
      obtain rfl : x = y := Option.some.inj hy
      have hlast : i = xs.length := by omega
      rw [hlast]
      exact hx
    next => cases hy

/-- What was heard and what was answered come from one series of exchanges. -/
theorem Answered.unique {replies : List Reply} (hx : Answered sv replies xs)
    (hy : Answered sv replies ys) (h : xs.map (Exchange.text sv) = ys.map (Exchange.text sv)) :
    xs = ys := by
  refine List.ext_getElem (by simpa using congrArg List.length h) fun i hi hi' => ?_
  have htext : xs[i].text sv = ys[i].text sv := by
    have hget := congrArg (·[i]?) h
    simpa [hi, hi'] using hget
  have hcall := Exchange.answered_of_text htext
  have hanswer : ys[i].answer = xs[i].answer := by
    rw [hx i xs[i] (List.getElem?_eq_getElem hi), hy i ys[i] (List.getElem?_eq_getElem hi'),
      ← hcall, Exchange.usual_answered]
  rw [← hcall, hanswer, Exchange.answered_answer]

theorem Exchange.text_ne {w : String} (hw : ' ' ∉ w.toList) (x : Exchange) : x.text sv ≠ w := by
  rintro rfl
  refine hw ?_
  cases x with
  | acquire r a =>
    rw [text, toList_acquireCall]
    exact List.mem_append_right _ List.mem_cons_self
  | release r a =>
    rw [text, toList_releaseCall]
    exact List.mem_append_right _ List.mem_cons_self

/-! ### One exchange -/

/-- What an exchange does to a manager. -/
def Manager.exchange : Exchange → Manager → Manager
  | .acquire r .granted, m => m.hold r
  | .acquire _ _, m => m
  | .release _ (.failed _), m => m
  | .release r _, m => m.drop r

theorem mem_held_exchange {m : Manager} :
    r ∈ (m.exchange x).held ↔ x.grants r = true ∨ r ∈ m.held ∧ x.returns r = false := by
  cases x with
  | acquire r' a =>
    cases a with
    | granted => simp [Manager.exchange, Manager.hold, Exchange.grants, Exchange.returns, or_comm]
    | declined | failed e => simp [Manager.exchange, Exchange.grants, Exchange.returns]
  | release r' a =>
    cases a with
    | granted | declined =>
      simp [Manager.exchange, Manager.drop, Exchange.grants, Exchange.returns]
    | failed e => simp [Manager.exchange, Exchange.grants, Exchange.returns]

theorem isSome_lookup_exchange {m : Manager} :
    ((m.exchange x).states.lookup r).isSome = true ↔
      x.grants r = true ∨ (m.states.lookup r).isSome = true ∧ x.returns r = false := by
  cases x with
  | acquire r' a =>
    cases a with
    | granted =>
      refine (States.isSome_lookup_update r' r .locked m.states).trans ?_
      by_cases hr : r = r' <;> simp [hr, Exchange.grants, Exchange.returns]
    | declined | failed e => simp [Manager.exchange, Exchange.grants, Exchange.returns]
  | release r' a =>
    cases a with
    | granted | declined =>
      refine (States.isSome_lookup_update r' r .unlocked m.states).trans ?_
      by_cases hr : r = r' <;> simp [hr, Exchange.grants, Exchange.returns]
    | failed e => simp [Manager.exchange, Exchange.grants, Exchange.returns]

theorem exchange_flavour (x : Exchange) (m : Manager) : (m.exchange x).flavour = m.flavour := by
  cases x with
  | acquire r a => cases a <;> rfl
  | release r a => cases a <;> rfl

theorem exchange_isDisposed (x : Exchange) (m : Manager) :
    (m.exchange x).isDisposed = m.isDisposed := by
  cases x with
  | acquire r a => cases a <;> rfl
  | release r a => cases a <;> rfl

namespace Desk

variable {d d' : Desk} {replies : List Reply}

/-- A manager has an exchange with its service. -/
structure Exchanged (sv : Service) (x : Exchange) (d d' : Desk) : Prop where
  manager : d'.manager = d.manager.exchange x
  calls : d'.calls = d.calls ++ [x.text sv]
  replies : d'.replies = d.replies.tail
  answer : x.answer = d.replies.head?.getD (x.usual sv)

/-- A lock is only asked for if it isn't held. -/
theorem exchanged_acquire (hf : d.manager.flavour = .service sv) (r : Requirement) :
    ((acquire r).run.run d).2 = d ∨
      d.manager.isDisposed = false ∧ r ∉ d.manager.held ∧
        ∃ a, Exchanged sv (.acquire r a) d ((acquire r).run.run d).2 := by
  rw [run_acquire]
  unfold tryAcquire
  simp only [run_bind, run_ensureAlive, run_get]
  cases halive : d.manager.isDisposed with
  | true => exact .inl rfl
  | false =>
    simp only [Bool.false_eq_true, if_false, hf]
    cases hheld : d.manager.held.contains r with
    | true => exact .inl rfl
    | false =>
      have hnew : r ∉ d.manager.held := by simpa using hheld
      refine .inr ⟨trivial, hnew, ?_⟩
      simp only [Bool.false_eq_true, if_false, run_bind, run_nextReply]
      cases hreply : d.replies.head?.getD
          (if sv.refused.contains (nodeName r.key) then .declined else .granted) with
      | granted => exact ⟨.granted, rfl, calls_told _ _ _ _, rfl, hreply.symm⟩
      | declined => exact ⟨.declined, rfl, calls_append d _, rfl, hreply.symm⟩
      | failed e => exact ⟨.failed e, rfl, calls_append d _, rfl, hreply.symm⟩

/-- A lock is only given back if it is held. -/
theorem exchanged_release (hf : d.manager.flavour = .service sv) (r : Requirement) :
    ((release r).run.run d).2 = d ∨
      d.manager.isDisposed = false ∧ r ∈ d.manager.held ∧
        ∃ a, Exchanged sv (.release r a) d ((release r).run.run d).2 := by
  unfold release
  simp only [run_bind, run_ensureAlive, run_get]
  cases halive : d.manager.isDisposed with
  | true => exact .inl rfl
  | false =>
    simp only [Bool.false_eq_true, if_false, hf]
    cases hheld : d.manager.held.contains r with
    | false => exact .inl rfl
    | true =>
      refine .inr ⟨trivial, List.contains_iff_mem.1 hheld, ?_⟩
      simp only [Bool.not_true, Bool.false_eq_true, if_false, run_bind, run_hear, run_nextReply]
      cases hreply : d.replies.head?.getD .granted with
      | granted => exact ⟨.granted, rfl, calls_told _ _ _ _, rfl, hreply.symm⟩
      | declined => exact ⟨.declined, rfl, calls_told _ _ _ _, rfl, hreply.symm⟩
      | failed e => exact ⟨.failed e, rfl, calls_append d _, rfl, hreply.symm⟩

/-! ### The books -/

/-- How the books of a manager stand after some exchanges with its service. -/
structure Books (sv : Service) (replies : List Reply) (xs : List Exchange) (d : Desk) : Prop where
  flavour : d.manager.flavour = .service sv
  /-- The service heard the exchanges, and at most then that the client comes to its end. -/
  calls : d.calls = xs.map (Exchange.text sv) ++
    if d.manager.isDisposed then ["stop", "close"] else []
  answered : Answered sv replies xs
  /-- The answers that are laid down for what comes. -/
  left : d.replies = replies.drop xs.length
  proper : Proper xs
  held : ∀ r, r ∈ d.manager.held ↔ IsOut r xs
  states : ∀ r, (d.manager.states.lookup r).isSome = true ↔ IsOut r xs
  ended : d.manager.isDisposed = true → ∀ r, ¬ IsOut r xs

theorem books_onService (sv : Service) (listeners : List String) (replies : List Reply) :
    Books sv replies [] (onService sv listeners replies) where
  flavour := rfl
  calls := rfl
  answered := fun _ _ h => by simp at h
  left := rfl
  proper := proper_nil
  held := fun r => by simp [onService, not_isOut_nil]
  states := fun r => by simp [onService, not_isOut_nil]
  ended := fun h => by simp [onService] at h

theorem Books.unique (h : Books sv replies xs d) (h' : Books sv replies ys d) : xs = ys := by
  refine h.answered.unique h'.answered ?_
  have hcalls := h.calls
  rw [h'.calls] at hcalls
  exact (List.append_cancel_right hcalls).symm

/-- A fitting exchange is put down. -/
theorem Books.exchanged (h : Books sv replies xs d) (halive : d.manager.isDisposed = false)
    (hfits : x.Fits xs) (hx : Exchanged sv x d d') : Books sv replies (xs ++ [x]) d' := by
  have halive' : d'.manager.isDisposed = false := by
    rw [hx.manager, exchange_isDisposed]
    exact halive
  constructor
  case flavour =>
    rw [hx.manager, exchange_flavour]
    exact h.flavour
  case calls =>
    have hcalls := h.calls
    rw [halive] at hcalls
    rw [hx.calls, hcalls, halive']
    simp
  case answered =>
    refine h.answered.snoc ?_
    rw [← h.left]
    exact hx.answer
  case left =>
    rw [hx.replies, h.left, List.tail_drop, List.length_append, List.length_singleton]
  case proper => exact h.proper.snoc hfits
  case held =>
    intro r
    rw [hx.manager, mem_held_exchange, isOut_snoc_iff, h.held]
  case states =>
    intro r
    rw [hx.manager, isSome_lookup_exchange, isOut_snoc_iff, h.states]
  case ended =>
    intro hended
    rw [halive'] at hended
    cases hended

theorem stays_books_acquire (r : Requirement) :
    Stays (fun d => ∃ xs, Books sv replies xs d) (acquire r) := by
  rintro d ⟨xs, h⟩
  rcases exchanged_acquire h.flavour r with hsame | ⟨halive, hnew, a, hx⟩
  · rw [hsame]
    exact ⟨xs, h⟩
  · have hfits : (Exchange.acquire r a).Fits xs := fun hout => hnew ((h.held r).2 hout)
    exact ⟨xs ++ [.acquire r a], h.exchanged halive hfits hx⟩

theorem stays_books_release (r : Requirement) :
    Stays (fun d => ∃ xs, Books sv replies xs d) (release r) := by
  rintro d ⟨xs, h⟩
  rcases exchanged_release h.flavour r with hsame | ⟨halive, hheld, a, hx⟩
  · rw [hsame]
    exact ⟨xs, h⟩
  · have hfits : (Exchange.release r a).Fits xs := (h.held r).1 hheld
    exact ⟨xs ++ [.release r a], h.exchanged halive hfits hx⟩

/-- A report changes what is known of the locks that are out, and nothing else. -/
theorem stays_books_setState (hout : IsOut r xs) {new : LockState} (hnew : new ≠ .unlocked) :
    Stays (Books sv replies xs) (setState r new) := by
  intro d h
  constructor
  case flavour => exact h.flavour
  case calls =>
    have hcalls : ((setState r new).run.run d).2.calls = d.calls := by
      refine (calls_append d _).trans ?_
      rw [silent_transitions, List.append_nil]
    rw [hcalls]
    exact h.calls
  case answered => exact h.answered
  case left => exact h.left
  case proper => exact h.proper
  case held => exact h.held
  case states =>
    intro x
    refine (States.isSome_lookup_update r x new d.manager.states).trans ?_
    split
    next hx => exact ⟨fun _ => hx ▸ hout, fun _ => hnew⟩
    next => exact h.states x
  case ended => exact h.ended

theorem Books.report (h : Books sv replies xs d) (c : Connection) :
    Books sv replies xs ((hearConnection c).run.run d).2 := by
  refine keeps_hearConnection h fun r hr => stays_books_setState ((h.held r).1 hr) ?_
  cases c <;> decide

theorem Books.closed (h : Books sv replies xs d) (hstates : d.manager.states = [])
    (halive : d.manager.isDisposed = false) : Books sv replies xs d.closed := by
  have hin : ∀ r, ¬ IsOut r xs := by
    intro r
    rw [← h.states, hstates]
    simp
  have hcalls := h.calls
  unfold Desk.closed
  rw [h.flavour]
  dsimp only
  rw [halive] at hcalls
  refine ⟨h.flavour, ?_, h.answered, h.left, h.proper, fun r => ?_, fun r => ?_, fun _ => hin⟩
  · refine (calls_append d _).trans ?_
    rw [hcalls]
    simp [Heard.call?]
  · simp [hin r]
  · simp [hin r]

theorem books_used (u : Use) (h : ∃ xs, Books sv replies xs d) :
    ∃ xs, Books sv replies xs (d.used u) := by
  refine u.keeps h (fun r _ => stays_books_acquire r) (fun r _ => stays_books_release r) ?_ ?_
  · obtain ⟨xs, h⟩ := h
    exact fun c _ => ⟨xs, h.report c⟩
  · rintro d' ⟨xs, h⟩ hstates halive
    exact ⟨xs, h.closed hstates halive⟩

theorem isDisposed_of_dispose (h : (dispose.run.run d).1 = .ok ()) :
    (d.used .dispose).manager.isDisposed = true := by
  show (dispose.run.run d).2.manager.isDisposed = true
  rw [run_dispose] at h ⊢
  generalize releaseAll.run.run d = released at h
  obtain ⟨e | ⟨⟨⟩⟩, d₁⟩ := released
  · cases h
  · show d₁.closed.manager.isDisposed = true
    unfold Desk.closed
    cases d₁.manager.flavour <;> rfl

/-- **The books of a manager on a service.** Whatever a manager is used for and whatever the service
answers, there is one series of exchanges that its books agree with: a lock has a state, and is
among those that are held, if the service granted it and hasn't taken it back since. When a manager
was disposed of, each lock that was granted was given back exactly once before it was granted again,
and the client was stopped and closed once. -/
theorem books_balance (sv : Service) (listeners : List String) (replies : List Reply)
    (us : List Use) :
    let d := (onService sv listeners replies).through us
    (∃! xs, Books sv replies xs d) ∧
    ((dispose.run.run d).1 = .ok () →
      let d' := d.used .dispose
      ∃ xs, Books sv replies xs d' ∧ Settled xs ∧
        d'.calls = xs.map (Exchange.text sv) ++ ["stop", "close"] ∧
        d'.calls.count "stop" = 1 ∧ d'.calls.count "close" = 1) := by
  intro d
  have hbooks : ∃ xs, Books sv replies xs d := by
    refine through_keeps (P := fun d => ∃ xs, Books sv replies xs d) (fun d u h => ?_) ?_ us
    · exact books_used u h
    · exact ⟨[], books_onService sv listeners replies⟩
  constructor
  · obtain ⟨xs, h⟩ := hbooks
    exact ⟨xs, h, fun ys h' => h'.unique h⟩
  · intro hdispose d'
    obtain ⟨xs, h⟩ := books_used .dispose hbooks
    have hended := isDisposed_of_dispose hdispose
    have hcalls : d'.calls = xs.map (Exchange.text sv) ++ ["stop", "close"] := by
      have hcalls := h.calls
      rw [hended] at hcalls
      exact hcalls
    have hnever : ∀ {w : String}, ' ' ∉ w.toList →
        (xs.map (Exchange.text sv)).count w = 0 := by
      intro w hw
      refine List.count_eq_zero.2 fun hmem => ?_
      obtain ⟨x, -, hx⟩ := List.mem_map.1 hmem
      exact x.text_ne hw hx
    refine ⟨xs, h, h.proper.settled (h.ended hended), hcalls, ?_, ?_⟩
    · rw [hcalls, List.count_append, hnever (by decide)]
      decide
    · rw [hcalls, List.count_append, hnever (by decide)]
      decide

/-- The service fails to take a lock back, and takes it back when it is asked once more. -/
theorem books_balance_retried :
    let sv : Service := ⟨"/locks/", []⟩
    let r : Requirement := ⟨.exclusive, "d.t"⟩
    let replies : List Reply := [.granted, .failed .storage, .granted]
    let d := (onService sv [] replies).through [.acquire r, .dispose]
    (dispose.run.run d).1 = .ok () ∧
      (d.used .dispose).calls =
        [acquireCall sv " ok" r, releaseCall sv r, releaseCall sv r, "stop", "close"] ∧
      ∃ xs, Books sv replies xs (d.used .dispose) ∧ Settled xs := by
  intro sv r replies d
  have hdispose : (dispose.run.run d).1 = .ok () := rfl
  have hbalance := (books_balance sv [] replies [.acquire r, .dispose]).2 hdispose
  obtain ⟨xs, hbooks, hsettled, -⟩ := hbalance
  exact ⟨hdispose, rfl, xs, hbooks, hsettled⟩

end Desk

end CatalogReplication.Lock
