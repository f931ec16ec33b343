set_option autoImplicit false

namespace DocGuard.Assoc

variable {K V : Type}

-- A key that is there, as `same` tells, keeps its place and its spelling.
def put (same : K → K → Bool) (entries : List (K × V)) (key : K) (value : V) : List (K × V) :=
  match entries with
  | [] => [(key, value)]
  | (k, v) :: rest => if same k key then (k, value) :: rest else (k, v) :: put same rest key value

def ofPairs (same : K → K → Bool) (pairs : List (K × V)) : List (K × V) :=
  pairs.foldl (fun entries pair => put same entries pair.1 pair.2) []

def get? [BEq K] (entries : List (K × V)) (key : K) : Option V :=
  (entries.find? fun entry => entry.1 == key).map (·.2)

@[simp]
theorem get?_nil [BEq K] (key : K) : get? ([] : List (K × V)) key = none := rfl

theorem get?_put [BEq K] [LawfulBEq K] (entries : List (K × V)) (key other : K) (value : V) :
    get? (put (· == ·) entries key value) other =
      if key == other then some value else get? entries other := by
  induction entries with
  | nil => by_cases equal : key == other <;> simp [put, get?, equal]
  | cons entry rest ih =>
    simp only [get?] at ih
    by_cases here : entry.1 == key <;> by_cases equal : entry.1 == other <;> grind [put, get?]

end DocGuard.Assoc
