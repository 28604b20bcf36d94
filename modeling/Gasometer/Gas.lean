/-!
# The gas schedule

Prices of the London rules. The price of memory grows with the square of its size, all other
prices are constants.
-/
namespace Gasometer.Gas

def jumpdest : Int := 1

/-- Reading a value that is at hand, and dropping one. -/
def base : Int := 2

/-- Simple arithmetic, comparison, pushing, copying and swapping. -/
def veryLow : Int := 3

/-- Multiplication, division and sign extension. -/
def low : Int := 5

/-- Modular arithmetic and jumps. -/
def mid : Int := 8

/-- Conditional jumps, and powers before their exponent is counted. -/
def high : Int := 10

def blockhash : Int := 20

def keccak256 : Int := 30

def keccak256Word : Int := 6

def log : Int := 375

def logTopic : Int := 375

def logByte : Int := 8

def create : Int := 32000

def codeByte : Int := 200

def selfdestruct : Int := 5000

def copyWord : Int := 3

def expByte : Int := 50

def coldSload : Int := 2100

def coldAccount : Int := 2600

def warmAccess : Int := 100

def sstoreSet : Int := 20000

def sstoreReset : Int := 5000 - coldSload

/-- What a call with value hands to the callee on top of its gas. -/
def callStipend : Int := 2300

def callValue : Int := 9000

def newAccount : Int := 25000

/-- The number of words that hold `size` bytes. -/
def wordsFor (size : Int) : Int := (size + 31) / 32

def memoryCost (words : Int) : Int := 3 * words + words * words / 512

end Gasometer.Gas
