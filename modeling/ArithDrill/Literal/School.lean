import ArithDrill.Literal.Basic

/-!
# The school form of a rational

Answers are written the way pupils do: a whole number, a proper fraction in lowest terms, or a
mixed number whose fraction is proper and in lowest terms.

## Main definitions

* `Literal.school` — the school form of the absolute value of a rational.
* `schoolForm` — its text, with a minus sign in front for a negative rational.
-/

namespace ArithDrill

/-- The school form of the absolute value of `r`. -/
def Literal.school (r : Rat) : Literal :=
  let n := r.num.natAbs
  let d := r.den
  if d = 1 then whole n
  else if n / d = 0 then fraction (n % d) d
  else mixed (n / d) (n % d) d

/-- The text of `r` in school form. -/
def schoolForm (r : Rat) : Text :=
  if r < 0 then '-' :: (Literal.school r).render else (Literal.school r).render

end ArithDrill
