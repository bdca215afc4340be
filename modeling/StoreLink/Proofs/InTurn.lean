import StoreLink.Exchange

/-!
# Exchanges in a row

`Exchange.inTurn` makes one exchange for each of some requests, in their order. The state that it
comes to is the one thing that whoever carries the exchanges sees of them: two ways to use an
exchange that come to the same state for every exchange have made the same exchanges.
-/

namespace StoreLink.Exchange

variable {σ α : Type}

/-- What exchanges in a row bring back, and the state that they come to. -/
def inTurn (exchange : Exchange σ α) : List RequestLine → σ → List α × σ
  | [], s => ([], s)
  | request :: rest, s =>
    let (answer, s') := exchange request s
    let (answers, last) := inTurn exchange rest s'
    (answer :: answers, last)

@[simp] theorem inTurn_nil (exchange : Exchange σ α) (s : σ) : inTurn exchange [] s = ([], s) :=
  rfl

@[simp] theorem inTurn_cons (exchange : Exchange σ α) (request : RequestLine)
    (rest : List RequestLine) (s : σ) :
    inTurn exchange (request :: rest) s
      = ((exchange request s).1 :: (inTurn exchange rest (exchange request s).2).1,
          (inTurn exchange rest (exchange request s).2).2) := rfl

@[simp] theorem inTurn_append (exchange : Exchange σ α) : ∀ (front back : List RequestLine) (s : σ),
    inTurn exchange (front ++ back) s
      = ((inTurn exchange front s).1 ++ (inTurn exchange back (inTurn exchange front s).2).1,
          (inTurn exchange back (inTurn exchange front s).2).2)
  | [], _, _ => rfl
  | request :: rest, back, s => by
    simp [inTurn_append exchange rest back]

/-- There is an answer for each request. -/
@[simp] theorem length_inTurn (exchange : Exchange σ α) : ∀ (requests : List RequestLine) (s : σ),
    (inTurn exchange requests s).1.length = requests.length
  | [], _ => rfl
  | request :: rest, s => by simp [length_inTurn exchange rest]

end StoreLink.Exchange
