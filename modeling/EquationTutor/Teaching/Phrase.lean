import EquationTutor.Problem.Kind
import EquationTutor.Step.Basic

namespace EquationTutor.Teaching

/-- The fixed explanations of a move. A move without a procedural one is
explained by the operation or the formula of the step. -/
structure Phrase where
  conceptual : String
  procedural : Option String
  visual : String
  algebraic : String

def sharedPhrase : Move → Option Phrase
  | .givenEquation => some
    ⟨"An equation states that two expressions have the same value; solving means finding " ++
       "every value of the unknown that makes this true.",
     some "Read the equation carefully and identify the unknown.",
     "Picture both sides as the two pans of a balance that must stay level.",
     "Any operation applied equally to both sides preserves the solutions."⟩
  | .givenInequality => some
    ⟨"An inequality describes a whole range of values rather than isolated points.",
     some "Identify the unknown and the comparison operator.",
     "The answer will be a shaded region of the number line.",
     "Adding the same number to both sides preserves an inequality."⟩
  | .givenSystem => some
    ⟨"A system asks for values that satisfy every equation at the same time.",
     some "Write both equations in the form ax + by = c.",
     "Each equation is a line; the solution is where the lines meet.",
     "A common solution must satisfy each equation individually."⟩
  | .solveForX => some
    ⟨"Isolating the unknown turns the equation into an explicit answer.",
     some "Undo the remaining operation on x.",
     "The marked points are where the graph meets the target value.",
     "Inverse operations cancel: (x + a) - a = x."⟩
  | .writeSolution => some
    ⟨"The solution set collects every value that satisfies the original problem.",
     some "Write the answer using interval or set notation.",
     "Shade exactly the region that works.",
     "Interval notation uses brackets for included endpoints and parentheses for " ++
        "excluded ones."⟩
  | _ => none

def quadraticPhrase : Move → Option Phrase
  | .identifyCoefficients => some
    ⟨"The coefficients a, b and c completely determine the shape and position of the parabola.",
     some "Match each term with ax² + bx + c and note the signs.",
     "a controls how wide the parabola opens and whether it opens up or down.",
     "Standard form: ax² + bx + c = 0."⟩
  | .calculateDiscriminant => some
    ⟨"The discriminant predicts how many real solutions exist before solving.",
     some "Compute b² - 4ac carefully, squaring b including its sign.",
     "Positive: the parabola crosses the x-axis twice; zero: it touches once; negative: " ++
        "it never reaches it.",
     "Δ = b² - 4ac."⟩
  | .applyQuadraticFormula => some
    ⟨"The quadratic formula solves every quadratic equation, whatever its coefficients.",
     some "Substitute a, b and the discriminant into the formula.",
     "The ± produces the two symmetric crossings around the axis of symmetry.",
     "x = (-b ± √(b² - 4ac)) / 2a."⟩
  | .simplifySquareRoot => some
    ⟨"Simplifying the square root makes the two solutions easy to read off.",
     none,
     "√Δ is the horizontal distance between the two crossings, scaled by a.",
     "√(k²) = |k|."⟩
  | .calculateSolutions => some
    ⟨"Each sign choice gives one of the two solutions.",
     some "Evaluate the + branch and the - branch separately.",
     "The two solutions are the x-intercepts of the parabola.",
     "x₁ + x₂ = -b/a and x₁·x₂ = c/a."⟩
  | .calculateSolution => some
    ⟨"A zero discriminant means the two solutions coincide.",
     some "Divide -b by 2a.",
     "The vertex of the parabola sits exactly on the x-axis.",
     "x = -b / 2a."⟩
  | .identifyComplexSolutions => some
    ⟨"When the discriminant is negative, the solutions are complex numbers that come in " ++
       "conjugate pairs.",
     some "Write √(-k) as i√k and split into real and imaginary parts.",
     "The parabola lies entirely above or below the x-axis.",
     "i² = -1."⟩
  | .factorOutCommon => some
    ⟨"Pulling out a common factor leaves a simpler quadratic with the same roots.",
     some "Divide every term by the greatest common factor.",
     "Scaling the parabola vertically does not move its x-intercepts.",
     "ka·x² + kb·x + kc = k(ax² + bx + c)."⟩
  | .findFactorPair => some
    ⟨"Factoring reverses multiplication of two binomials.",
     some "List factor pairs of c and choose the one adding to b.",
     "Each factor pair corresponds to a possible pair of intercepts.",
     "(x + p)(x + q) = x² + (p + q)x + pq."⟩
  | .factorQuadratic => some
    ⟨"A factored form exposes the solutions directly.",
     some "Write the quadratic as (x + p)(x + q).",
     "Each binomial factor marks one x-intercept.",
     "x² + (p + q)x + pq = (x + p)(x + q)."⟩
  | .zeroProduct => some
    ⟨"A product can only be zero if at least one factor is zero.",
     some "Set each factor equal to zero.",
     "Each factor vanishes at one intercept.",
     "AB = 0 ⇒ A = 0 or B = 0."⟩
  | .cannotFactor => some
    ⟨"Not every quadratic factors over the integers; the formula still works.",
     some "Switch strategy to the quadratic formula.",
     "The intercepts exist but are not whole numbers.",
     "Integer factoring needs integers p, q with pq = c and p + q = b."⟩
  | .divideLeading => some
    ⟨"Completing the square is easiest when the x² term has coefficient 1.",
     some "Divide every term by a.",
     "Dividing by a rescales the graph vertically but keeps the roots.",
     "ax² + bx + c = 0 ⇔ x² + (b/a)x + c/a = 0."⟩
  | .moveConstant => some
    ⟨"Separating the constant makes room to build a perfect square.",
     some "Subtract the constant term from both sides.",
     "This shifts attention to the x terms only.",
     "x² + bx + c = 0 ⇔ x² + bx = -c."⟩
  | .completeSquare => some
    ⟨"Adding (b/2)² turns x² + bx into a perfect square trinomial.",
     some "Halve the x coefficient, square it, add it to both sides.",
     "Geometrically, the missing corner square completes a larger square.",
     "x² + bx + (b/2)² = (x + b/2)²."⟩
  | .factorPerfectSquare => some
    ⟨"The perfect square reveals the vertex form of the parabola.",
     some "Rewrite the left side as (x + b/2)².",
     "The vertex is at x = -b/2.",
     "x² + 2hx + h² = (x + h)²."⟩
  | .takeSquareRoot => some
    ⟨"Taking a square root gives two possibilities, positive and negative.",
     some "Take ± the square root of both sides.",
     "The two solutions are equally far from the axis of symmetry.",
     "u² = k ⇒ u = ±√k for k ≥ 0."⟩
  | .solveRelatedEquation => some
    ⟨"The sign of a quadratic can only change at its roots, so they split the line into " ++
       "test regions.",
     some "Solve the equation obtained by replacing the inequality with =.",
     "The roots are where the parabola crosses the x-axis.",
     "ax² + bx + c = 0."⟩
  | .identifyTestIntervals => some
    ⟨"Between consecutive critical points the quadratic keeps one sign.",
     some "List the intervals determined by the critical points.",
     "Each interval is a stretch of the x-axis where the parabola stays above or below.",
     "Critical points divide ℝ into open intervals."⟩
  | .testEachInterval => some
    ⟨"One test value is enough to know the sign on a whole interval.",
     some "Substitute a test value from each interval.",
     "Check whether the parabola is above or below the axis there.",
     "The sign of f(t) equals the sign of f on the interval containing t."⟩
  | .writeHeightFunction => some
    ⟨"Under constant gravity the height of a thrown object is a quadratic function of time.",
     some "Substitute g, v₀ and h₀ into h(t) = -gt² + v₀t + h₀.",
     "The path over time is a downward-opening parabola.",
     "h(t) = -½·a_g·t² + v₀t + h₀."⟩
  | .findTimeOfMax => some
    ⟨"The highest point is the vertex, where the upward speed runs out.",
     some "Evaluate t = v₀ / 2g.",
     "The axis of symmetry splits the flight into a rising half and a falling half.",
     "t = -b / 2a for h(t) = at² + bt + c."⟩
  | .computeMaxHeight => some
    ⟨"The peak height is the function's value at the vertex time.",
     none,
     "Read the height of the parabola's top point.",
     "k = h(-b / 2a)."⟩
  | .setTargetHeight => some
    ⟨"Asking when the object is at a given height turns the function into an equation.",
     some "Set h(t) equal to the target and move everything to one side.",
     "Draw a horizontal line at the target height and look for crossings.",
     "h(t) = H ⇔ -gt² + v₀t + (h₀ - H) = 0."⟩
  | .solveForTime => some
    ⟨"A quadratic in t can have two, one or no real solutions.",
     some "Apply the quadratic formula to the equation in t.",
     "Each crossing of the horizontal line is one time.",
     "t = (-b ± √(b² - 4ac)) / 2a."⟩
  | .interpretTimes => some
    ⟨"Only times after launch describe the actual flight.",
     some "Discard negative times and describe each remaining one.",
     "The earlier crossing is on the way up, the later one on the way down.",
     "t ≥ 0."⟩
  | .givenFunction => some
    ⟨"A quadratic function assigns a parabola to its coefficients.",
     some "Identify a, b and c in f(x) = ax² + bx + c.",
     "The sign of a decides whether the parabola opens up or down.",
     "f(x) = ax² + bx + c, a ≠ 0."⟩
  | .findVertex => some
    ⟨"The vertex is the turning point of the parabola and the location of its extreme value.",
     some "Compute h = -b / 2a, then k = f(h).",
     "The vertex sits on the axis of symmetry.",
     "(h, k) = (-b / 2a, f(-b / 2a))."⟩
  | .writeVertexForm => some
    ⟨"Vertex form shows the vertex and the stretch factor at a glance.",
     some "Write f(x) = a(x - h)² + k.",
     "The graph of y = x² moved so its tip lands on (h, k).",
     "a(x - h)² + k = ax² - 2ahx + ah² + k."⟩
  | .describeGraph => some
    ⟨"Every parabola is the graph of y = x² after stretching, reflecting and shifting.",
     none,
     "Apply the transformations to y = x² one at a time.",
     "y = a(x - h)² + k."⟩
  | .stateRange => some
    ⟨"The extreme value bounds every output of the function.",
     some "Start the range at k and extend it in the direction the parabola opens.",
     "Project the parabola onto the y-axis.",
     "a > 0 ⇒ f(x) ≥ k; a < 0 ⇒ f(x) ≤ k."⟩
  | .determineExtremum => some
    ⟨"An upward parabola has a lowest point and a downward one has a highest point, " ++
       "never both.",
     some "Use the sign of a to name the vertex value.",
     "The vertex is the bottom of a cup or the top of a cap.",
     "f(h) = k is the minimum when a > 0 and the maximum when a < 0."⟩
  | _ => none

def exponentialPhrase : Move → Option Phrase
  | .isolateExponential => some
    ⟨"The exponential expression must stand alone before logarithms can be applied.",
     some "Divide both sides by the coefficient.",
     "This rescales the curve so the target value is easier to read.",
     "k·b^x = r ⇔ b^x = r/k."⟩
  | .takeLogarithm => some
    ⟨"Logarithms are the inverse of exponentials, so they bring the unknown out of the " ++
       "exponent.",
     some "Apply ln to both sides.",
     "Taking logarithms straightens an exponential curve into a line.",
     "u = v ⇔ ln(u) = ln(v) for u, v > 0."⟩
  | .takeNaturalLogarithm => some
    ⟨"The natural logarithm undoes e exactly.",
     some "Apply ln to both sides and simplify ln(e^u) to u.",
     "ln reads off the exponent needed to reach a value.",
     "ln(e^u) = u."⟩
  | .applyLogPowerRule => some
    ⟨"The power rule turns an exponent into an ordinary factor.",
     some "Move the exponent in front of the logarithm.",
     "The unknown now multiplies a constant, like a line's slope.",
     "ln(aⁿ) = n·ln(a)."⟩
  | .applyPowerRule => some
    ⟨"The power rule turns an exponent into an ordinary factor.",
     some "Move the exponent in front of the logarithm.",
     "The unknown now multiplies a constant, like a line's slope.",
     "ln(aⁿ) = n·ln(a)."⟩
  | .identifyBaseType => some
    ⟨"Whether the exponential grows or decays decides the direction of the final inequality.",
     some "Compare the base with 1.",
     "Base above 1 rises to the right; base between 0 and 1 falls to the right.",
     "ln(b) > 0 ⇔ b > 1."⟩
  | .compareWithRange => some
    ⟨"An exponential with positive base only takes positive values.",
     some "Compare the bound with the range (0, ∞).",
     "The curve stays strictly above the x-axis.",
     "b^x > 0 for all real x."⟩
  | .makeSubstitution => some
    ⟨"A substitution reveals a familiar quadratic hidden inside the exponential equation.",
     some "Replace b^x with u and b^(2x) with u².",
     "The exponential problem becomes a parabola in u.",
     "b^(2x) = (b^x)²."⟩
  | .solveQuadraticEquation => some
    ⟨"Solving the quadratic in u gives candidate values for b^x.",
     some "Solve for u by factoring or the quadratic formula.",
     "Each root of the parabola in u is a candidate height of the exponential.",
     "au² + bu + c = 0."⟩
  | .rejectInvalid => some
    ⟨"An exponential is never zero or negative, so such values of u cannot occur.",
     some "Discard every u ≤ 0.",
     "The exponential curve never dips to or below the axis.",
     "b^x > 0."⟩
  | .backSubstitute => some
    ⟨"Each valid u gives an ordinary exponential equation.",
     some "Replace u with b^x.",
     "Read off where the exponential reaches each valid height.",
     "u = b^x."⟩
  | .solveExponentialEquations => some
    ⟨"Logarithms finish each equation.",
     some "Apply x = ln(u)/ln(b) for each valid u.",
     "Each solution is where the curve meets a horizontal line.",
     "b^x = u ⇔ x = ln(u)/ln(b)."⟩
  | .convertToExponential => some
    ⟨"A logarithm answers the question 'what power gives this number?'.",
     some "Rewrite log_b(x) = y as x = b^y.",
     "The logarithm and exponential graphs mirror each other across y = x.",
     "log_b(x) = y ⇔ x = b^y."⟩
  | .evaluate => some
    ⟨"Evaluating the power produces the final number.",
     some "Compute the power.",
     "The solution is where the logarithm curve reaches the target height.",
     "b^y."⟩
  | _ => none

def financePhrase : Move → Option Phrase
  | .identifyGiven => some
    ⟨"Every growth model links an initial amount, a final amount, a rate and a time.",
     some "List the known quantities and name the unknown.",
     "Locate the known point on the growth curve.",
     "Three of P, A, r, t determine the fourth."⟩
  | .chooseFormula => some
    ⟨"The model depends on how often growth is applied: in steps or continuously.",
     some "Select the formula that matches the situation.",
     "Discrete compounding climbs in steps; continuous growth is smooth.",
     "A = P(1 + r/n)^(nt) or A = Pe^(rt)."⟩
  | .substituteValues => some
    ⟨"Substitution turns the general model into this particular situation.",
     some "Replace each symbol with its value.",
     "This pins down one specific curve.",
     "Replace symbols by their values."⟩
  | .calculate => some
    ⟨"Evaluating the model predicts the amount at the given time.",
     some "Work out the growth factor, then multiply by the initial amount.",
     "Read the height of the curve at time t.",
     "A = P·F."⟩
  | .solveForUnknown => some
    ⟨"Inverse operations recover the missing quantity from the model.",
     none,
     "Find where on the curve the known values fit.",
     "Logarithms undo exponents; roots undo powers."⟩
  | .computeDecayConstant => some
    ⟨"The half-life and the continuous rate constant describe the same process.",
     some "Divide ln 2 by the half-life.",
     "A fixed fraction disappears in every equal time interval.",
     "k = ln 2 / h."⟩
  | .computeRemaining => some
    ⟨"After each half-life, half of the amount remains.",
     some "Evaluate A₀·e^(-kt).",
     "The curve halves its height every half-life.",
     "A = A₀·(1/2)^(t/h) = A₀·e^(-kt)."⟩
  | _ => none

def linearPhrase : Move → Option Phrase
  | .subtractConstant => some
    ⟨"Removing the constant term leaves only the variable term on one side.",
     some "Subtract the constant from both sides.",
     "This shifts the line vertically.",
     "a + b = c ⇔ a = c - b."⟩
  | .divideCoefficient => some
    ⟨"Dividing by the coefficient leaves x alone.",
     some "Divide both sides by the coefficient of x.",
     "The solution is where the line reaches the target height.",
     "mx = k ⇔ x = k/m for m ≠ 0."⟩
  | .classifyEquation => some
    ⟨"When x cancels, the statement is either always true or never true.",
     some "Decide whether the remaining numeric statement holds.",
     "The line is horizontal: it either coincides with the target or never reaches it.",
     "0·x = k has no solution for k ≠ 0 and every x for k = 0."⟩
  | .computeDeterminant => some
    ⟨"The determinant tells whether the two lines meet at exactly one point.",
     some "Compute a₁b₂ - a₂b₁.",
     "A zero determinant means the lines have the same slope.",
     "D = a₁b₂ - a₂b₁."⟩
  | .applyCramer => some
    ⟨"Cramer's rule expresses each unknown as a ratio of determinants.",
     some "Replace a column by the constants and divide by D.",
     "The answer is the intersection point of the two lines.",
     "x = Dx/D, y = Dy/D."⟩
  | .classifySystem => some
    ⟨"With D = 0 the lines are parallel or the same line.",
     some "Check whether the replaced determinants also vanish.",
     "Parallel lines never meet; identical lines meet everywhere.",
     "D = 0 and Dx = Dy = 0 ⇒ dependent system."⟩
  | _ => none

/-- The explanations of a move in a problem of the given family. -/
def phrase? (family : Family) (m : Move) : Option Phrase :=
  let own :=
    match family with
    | .quadratic => quadraticPhrase m
    | .exponential => exponentialPhrase m
    | .finance => financePhrase m
    | .linear => linearPhrase m
  own.orElse fun _ => sharedPhrase m

structure Explanations where
  conceptual : String
  procedural : String
  visual : String
  algebraic : String

/-- What to do in a step, by its operation or its formula. -/
def procedure (s : Step) : String :=
  match s.operation, s.formula with
  | some operation, _ => s!"Apply the operation: {operation}."
  | none, some formula => s!"Use the formula {formula}."
  | none, none => "Carry out this step carefully and check each sign."

/-- The explanations of a step; steps of unknown name have general ones. -/
def explanations (s : Step) (family : Family) : Explanations :=
  match (Move.ofTitle? s.name).bind (phrase? family) with
  | some p => ⟨p.conceptual, p.procedural.getD (procedure s), p.visual, p.algebraic⟩
  | none =>
    { conceptual := "This step moves the problem closer to an explicit solution."
      procedural := procedure s
      visual := "Follow how the expression changes from the previous line."
      algebraic := s.rule.getD "Apply equivalent transformations to both sides." }

end EquationTutor.Teaching
