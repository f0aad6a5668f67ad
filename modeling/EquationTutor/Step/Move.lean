namespace EquationTutor

inductive Move where
  | givenEquation
  | givenInequality
  | givenSystem
  | identifyCoefficients
  | calculateDiscriminant
  | applyQuadraticFormula
  | simplifySquareRoot
  | calculateSolutions
  | calculateSolution
  | identifyComplexSolutions
  | factorOutCommon
  | findFactorPair
  | factorQuadratic
  | zeroProduct
  | solveForX
  | cannotFactor
  | divideLeading
  | moveConstant
  | completeSquare
  | factorPerfectSquare
  | takeSquareRoot
  | writeHeightFunction
  | findTimeOfMax
  | computeMaxHeight
  | setTargetHeight
  | solveForTime
  | interpretTimes
  | givenFunction
  | findVertex
  | writeVertexForm
  | describeGraph
  | stateRange
  | determineExtremum
  | solveRelatedEquation
  | identifyTestIntervals
  | testEachInterval
  | writeSolution
  | isolateExponential
  | takeLogarithm
  | takeNaturalLogarithm
  | applyLogPowerRule
  | identifyBaseType
  | applyPowerRule
  | compareWithRange
  | makeSubstitution
  | solveQuadraticEquation
  | rejectInvalid
  | backSubstitute
  | solveExponentialEquations
  | convertToExponential
  | evaluate
  | identifyGiven
  | chooseFormula
  | substituteValues
  | calculate
  | solveForUnknown
  | computeDecayConstant
  | computeRemaining
  | subtractConstant
  | divideCoefficient
  | classifyEquation
  | computeDeterminant
  | applyCramer
  | classifySystem
  deriving DecidableEq

namespace Move

def all : List Move :=
  [givenEquation, givenInequality, givenSystem, identifyCoefficients, calculateDiscriminant,
   applyQuadraticFormula, simplifySquareRoot, calculateSolutions, calculateSolution,
   identifyComplexSolutions, factorOutCommon, findFactorPair, factorQuadratic, zeroProduct,
   solveForX, cannotFactor, divideLeading, moveConstant, completeSquare,
   factorPerfectSquare, takeSquareRoot, writeHeightFunction, findTimeOfMax,
   computeMaxHeight, setTargetHeight, solveForTime, interpretTimes, givenFunction,
   findVertex, writeVertexForm, describeGraph, stateRange, determineExtremum,
   solveRelatedEquation, identifyTestIntervals, testEachInterval, writeSolution,
   isolateExponential, takeLogarithm, takeNaturalLogarithm, applyLogPowerRule,
   identifyBaseType, applyPowerRule, compareWithRange, makeSubstitution,
   solveQuadraticEquation, rejectInvalid, backSubstitute, solveExponentialEquations,
   convertToExponential, evaluate, identifyGiven, chooseFormula, substituteValues,
   calculate, solveForUnknown, computeDecayConstant, computeRemaining, subtractConstant,
   divideCoefficient, classifyEquation, computeDeterminant, applyCramer, classifySystem]

def title : Move → String
  | givenEquation => "Given equation"
  | givenInequality => "Given inequality"
  | givenSystem => "Given system"
  | identifyCoefficients => "Identify coefficients"
  | calculateDiscriminant => "Calculate discriminant"
  | applyQuadraticFormula => "Apply quadratic formula"
  | simplifySquareRoot => "Simplify square root"
  | calculateSolutions => "Calculate solutions"
  | calculateSolution => "Calculate solution"
  | identifyComplexSolutions => "Identify complex solutions"
  | factorOutCommon => "Factor out common factor"
  | findFactorPair => "Find factor pair"
  | factorQuadratic => "Factor the quadratic"
  | zeroProduct => "Apply zero product property"
  | solveForX => "Solve for x"
  | cannotFactor => "Cannot factor with integers"
  | divideLeading => "Divide by leading coefficient"
  | moveConstant => "Move constant term"
  | completeSquare => "Complete the square"
  | factorPerfectSquare => "Factor perfect square"
  | takeSquareRoot => "Take square root"
  | writeHeightFunction => "Write height function"
  | findTimeOfMax => "Find time of maximum height"
  | computeMaxHeight => "Compute maximum height"
  | setTargetHeight => "Set height equal to target"
  | solveForTime => "Solve for time"
  | interpretTimes => "Interpret the times"
  | givenFunction => "Given function"
  | findVertex => "Find vertex"
  | writeVertexForm => "Write vertex form"
  | describeGraph => "Describe the graph"
  | stateRange => "State the range"
  | determineExtremum => "Determine maximum or minimum"
  | solveRelatedEquation => "Solve related equation"
  | identifyTestIntervals => "Identify test intervals"
  | testEachInterval => "Test each interval"
  | writeSolution => "Write solution"
  | isolateExponential => "Isolate the exponential expression"
  | takeLogarithm => "Take logarithm of both sides"
  | takeNaturalLogarithm => "Take natural logarithm"
  | applyLogPowerRule => "Apply logarithm power rule"
  | identifyBaseType => "Identify base type"
  | applyPowerRule => "Apply power rule"
  | compareWithRange => "Compare with exponential range"
  | makeSubstitution => "Make substitution"
  | solveQuadraticEquation => "Solve quadratic equation"
  | rejectInvalid => "Reject invalid values"
  | backSubstitute => "Back-substitute"
  | solveExponentialEquations => "Solve exponential equations"
  | convertToExponential => "Convert to exponential form"
  | evaluate => "Evaluate"
  | identifyGiven => "Identify given information"
  | chooseFormula => "Choose appropriate formula"
  | substituteValues => "Substitute values"
  | calculate => "Calculate"
  | solveForUnknown => "Solve for the unknown"
  | computeDecayConstant => "Compute decay constant"
  | computeRemaining => "Compute remaining amount"
  | subtractConstant => "Subtract constant term"
  | divideCoefficient => "Divide by coefficient"
  | classifyEquation => "Classify equation"
  | computeDeterminant => "Compute determinant"
  | applyCramer => "Apply Cramer's rule"
  | classifySystem => "Classify system"

def ofTitle? (s : String) : Option Move :=
  all.find? fun m => m.title = s

end Move

end EquationTutor
