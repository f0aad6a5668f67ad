import EquationTutor.Pattern.Search
import EquationTutor.Reading.Grammar

namespace EquationTutor.Reading.Shape

open Pattern

/-- `a x^2 [b x] [c] op rhs`; groups a, b, c, op, rhs. -/
def quadratic : Pattern :=
  cat [group 1 coefficient, times, squared 'x', blanks,
    optional (cat [group 2 signedCoefficient, times, char 'x', boundary]), blanks,
    optional (group 3 constantTerm), blanks, group 4 relationSign, blanks,
    group 5 signedNumber]

/-- `f(x) = a x^2 [b x] [c]`; groups a, b, c. -/
def quadraticFunction : Pattern :=
  cat [functionHead, equals, group 1 coefficient, times, squared 'x', blanks,
    optional (cat [group 2 signedCoefficient, times, char 'x', boundary]), blanks,
    optional (group 3 constantTerm)]

/-- `h(t) = a t^2 [v t] [h]`; groups a, v, h. -/
def heightFunction : Pattern :=
  cat [heightHead, blanks, group 1 signedNumber, times, squared 't', blanks,
    optional (cat [group 2 (cat [sign, blanks, optional number]), times, char 't', boundary]),
    blanks, optional (group 3 (cat [sign, blanks, number]))]

/-- `[k *] base^x op bound`; groups k, base, op, bound. -/
def exponentialInequality : Pattern :=
  cat [optional (cat [group 1 signedNumber, blanks, char '*', blanks]), group 2 base, exponentX,
    group 3 orderSign, blanks, group 4 signedNumber]

/-- `a base^(2x) + b base^x + c = rhs`; groups a, first base, b, second base, c,
rhs. -/
def exponentialQuadratic : Pattern :=
  cat [group 1 coefficient, times, group 2 base, blanks, exponentTwoX,
    group 3 (cat [sign, blanks, optional number]), times, group 4 base, exponentX,
    optional (group 5 (cat [sign, blanks, number])), equals, group 6 signedNumber]

/-- `[k] e^(r x) = result`; groups k, r, result. -/
def naturalExponential : Pattern :=
  cat [optional (cat [group 1 signedNumber, times]), char 'e', exponentOpening, blanks,
    group 2 coefficient, times, char 'x', blanks, optional (char ')'), equals,
    group 3 signedNumber]

/-- `[k *] base^x = result`; groups k, base, result. -/
def simpleExponential : Pattern :=
  cat [optional (cat [group 1 signedNumber, blanks, char '*', blanks]), group 2 number, exponentX,
    char '=', blanks, group 3 signedNumber]

/-- `log[_base](x) = result`; groups base, result. -/
def logarithm : Pattern :=
  cat [boundary, text "log", optional (cat [char '_', group 1 number]), argument 'x', equals,
    group 2 signedNumber]

/-- `ln(x) = result`; group result. -/
def naturalLogarithm : Pattern :=
  cat [boundary, text "ln", argument 'x', equals, group 1 signedNumber]

/-- `m x [b] op c`; groups m, b, op, c. -/
def linear : Pattern :=
  cat [group 1 coefficient, times, char 'x', boundary, blanks, optional (group 2 constantTerm),
    blanks, group 3 relationSign, blanks, group 4 signedNumber]

/-- One equation `a x + b y = c` of a system; groups a, b, c. -/
def linearTwoVariables : Pattern :=
  cat [group 1 coefficient, times, char 'x', blanks, group 2 signedCoefficient, times, char 'y',
    equals, group 3 signedNumber]

def money : Pattern :=
  cat [char '$', blanks, group 1 amount]

/-- An amount of dollars that is reached. -/
def targetMoney : Pattern :=
  cat [boundary, any [word "to", word "reach", plural "become"], blanks1, money]

def percent : Pattern :=
  cat [group 1 number, blanks, char '%']

def duration : Pattern :=
  cat [boundary, anyWord ["for", "after", "in", "over"], blanks1, group 1 decimal, blanks,
    any (["year", "yr", "month", "day", "hour", "minute"].map plural), boundary]

/-- What there is at the start: the first number soon after the word. -/
def initialAmount : Pattern :=
  cat [boundary,
    any [cat [word "initial", optional (word "ly")],
         cat [plural "start", blanks1, word "with"],
         phrase ["starting", "with"],
         cat [plural "begin", blanks1, word "with"]],
    repeated (fun c => !Text.isDigit c) 0 (some 24) false, group 1 amount]

def halfLife : Pattern :=
  cat [word "half", optional (one fun c => Text.isBlank c || c == '-'), word "life", blanks1,
    ofOrIs, group 1 decimal]

def doublingTime : Pattern :=
  cat [phrase ["doubling", "time"], blanks1, ofOrIs, group 1 decimal]

def frequency : Pattern :=
  wholly (group 1 (any
    [cat [word "semi", optional (char '-'), word "annually"], word "annually", word "yearly",
     word "quarterly", word "monthly", word "weekly", word "daily",
     cat [word "continuous", optional (word "ly")]]))

/-- A speed, after the word or before its unit; groups 1 and 2. -/
def initialVelocity : Pattern :=
  any [cat [anyWord ["velocity", "speed"], blanks1, ofOrIs, group 1 decimal],
       cat [boundary, group 2 decimal, blanks,
         any [word "ft", word "feet", word "m", plural "meter", plural "metre"], blanks,
         any [cat [char '/', blanks, letter 's', optional (word "ec")], phrase ["per", "second"]],
         boundary]]

/-- A starting height, after the words or before its unit; groups 1 and 2. -/
def initialHeight : Pattern :=
  any [cat [phrase ["initial", "height"], blanks1, ofOrIs, group 1 decimal],
       cat [boundary, anyWord ["from", "off"], blanks1,
         optional (any [cat [word "a", blanks1], cat [word "the", blanks1]]),
         optional (cat [phrase ["height", "of"], blanks1]), group 2 decimal,
         many fun c => Text.isBlank c || c == '-',
         any [word "ft", word "feet", word "foot", word "m", plural "meter", plural "metre"],
         boundary]]

def targetHeight : Pattern :=
  cat [boundary, any [cat [word "reach", optional (word "es")], word "at"], blanks1,
    optional (cat [word "a", blanks1]), phrase ["height", "of"], blanks1, group 1 decimal]

def hitsGround : Pattern :=
  any [wholly (cat [any [plural "hit", cat [word "reach", optional (word "es")], plural "strike"],
         blanks1, phrase ["the", "ground"]]),
       wholly (plural "land")]

def metricUnits : Pattern :=
  any [wholly (word "m/s"),
       wholly (cat [word "met", anyWord ["er", "re"], optional (letter 's')]),
       cat [one Text.isDigit, blanks, letter 'm', boundary]]

/-- Whether a greatest or a least value is asked for. -/
def optimizationGoal : Pattern :=
  wholly (cat [group 1 (anyWord ["maxim", "minim"]),
    any [cat [letter 'i', sOrZ, letter 'e'], word "um"]])

def continuous : Pattern :=
  wholly (cat [word "continuous", optional (word "ly")])

def all : List (String × Pattern) :=
  [("quadratic", quadratic), ("quadratic_function", quadraticFunction),
   ("height_function", heightFunction), ("exponential_inequality", exponentialInequality),
   ("exponential_quadratic", exponentialQuadratic), ("natural_exponential", naturalExponential),
   ("simple_exponential", simpleExponential), ("logarithm", logarithm),
   ("natural_logarithm", naturalLogarithm), ("linear", linear),
   ("linear_two_var", linearTwoVariables), ("money", money), ("target_money", targetMoney),
   ("percent", percent), ("duration", duration), ("initial_amount", initialAmount),
   ("half_life", halfLife), ("doubling_time", doublingTime), ("frequency", frequency),
   ("initial_velocity", initialVelocity), ("initial_height", initialHeight),
   ("target_height", targetHeight), ("hits_ground", hitsGround), ("metric_units", metricUnits),
   ("optimization_goal", optimizationGoal), ("continuous", continuous)]

end EquationTutor.Reading.Shape
