import NrfSdk.Machine.Memory
import NrfSdk.Machine.Bits
import Mathlib.Data.Int.Bitwise

namespace LteLc

open Machine

/-! The PSM timers of lte_link_control, modules/psm.c: the encoding of requested periodic TAU and
active time seconds as GPRS Timer 3 and GPRS Timer 2 bit strings, and their parsing. -/

def t3324LookupDifferentValues : Nat := 3

def t3412ExtLookupDifferentValues : Nat := 7

def timerValueMax : Nat := 31

def t3412ExtLookup : List Nat := [600, 3600, 36000, 2, 30, 60, 1152000, 0]

def t3412Lookup : List Nat := [2, 60, 360, 60, 60, 60, 60, 0]

def t3324Lookup : List Nat := [2, 60, 360, 60, 60, 60, 60, 0]

def byteToBinaryStringArgs (byte : Nat) : List Char :=
  [0x80, 0x40, 0x20, 0x10, 0x08, 0x04, 0x02, 0x01].map fun mask => if byte &&& mask ≠ 0 then '1' else '0'

/-- uint32_t -1, the value of the selections before the search has found a unit. -/
def unselected : Nat := 2 ^ 32 - 1

structure TimerSearch where
  selectedIndex : Nat
  selectedValue : Nat
  selectedTimerValue : Nat
  deriving DecidableEq, Repr

def psmEncodeTimerStep (requestedValue : Nat) (lookupTable : List Nat) (i : Nat) (search : TimerSearch) :
    TimerSearch :=
  let unit := lookupTable.getD i 0
  let currentTimerValue := requestedValue / unit + if requestedValue % unit > 0 then 1 else 0
  if currentTimerValue > timerValueMax then search
  else
    let currentValue := u32 (unit * currentTimerValue : Nat)
    if search.selectedValue = unselected ∨
        u32 ((currentValue : Int) - requestedValue) < u32 ((search.selectedValue : Int) - requestedValue) then
      ⟨i, currentValue, currentTimerValue⟩
    else search

/-- psm_encode_timer: 0 and the timer as eight binary digits, unit index in the top three bits; or
-EINVAL with the string untouched when no unit has room for the requested value. -/
def psmEncodeTimer (encodedTimerStr : List Char) (requestedValue : Nat) (lookupTable : List Nat)
    (lookupTableSize : Nat) : Int × List Char :=
  let search := forRange lookupTableSize (psmEncodeTimerStep requestedValue lookupTable)
    ⟨unselected, unselected, unselected⟩
  if search.selectedIndex ≠ unselected then
    let encodedValueInt := u8 (search.selectedIndex <<< 5 ||| search.selectedTimerValue : Nat)
    (0, byteToBinaryStringArgs encodedValueInt)
  else (-22, encodedTimerStr)

def psmEncode (tauExtStr activeTimeStr : List Char) (rptau rat : Int) : Int × List Char × List Char :=
  let (ret, tauExtStr) :=
    if rptau ≥ 0 then psmEncodeTimer tauExtStr rptau.toNat t3412ExtLookup t3412ExtLookupDifferentValues
    else (0, [])
  let (ret, activeTimeStr) :=
    if rat ≥ 0 then
      let (encoded, activeTimeStr) :=
        psmEncodeTimer activeTimeStr rat.toNat t3324Lookup t3324LookupDifferentValues
      (Int.lor ret encoded, activeTimeStr)
    else (ret, [])
  (ret, tauExtStr, activeTimeStr)

/-- requested_psm_param_rptau and requested_psm_param_rat, as the C strings they hold. -/
structure PsmParams where
  rptau : List Char
  rat : List Char
  deriving DecidableEq, Repr

def psmParamSetSeconds (params : PsmParams) (rptau rat : Int) : Int × PsmParams :=
  let (ret, rptauStr, ratStr) := psmEncode params.rptau params.rat rptau rat
  if ret ≠ 0 then (ret, ⟨[], []⟩) else (ret, ⟨rptauStr, ratStr⟩)

structure LteLcPsmCfg where
  tau : Int
  activeTime : Int
  deriving DecidableEq, Repr

/-- isspace in the C locale. -/
def isSpace (c : Char) : Bool :=
  c = ' ' || c = '\t' || c = '\n' || c = '\x0b' || c = '\x0c' || c = '\r'

/-- strtoul(str, NULL, 2) with a 32-bit unsigned long: white space, a sign, then the binary digits; an
overflow gives ULONG_MAX and a minus sign negates. -/
def strtoulBase2 (str : List Char) : Nat :=
  let str := str.dropWhile isSpace
  let (negative, str) := match str with
    | '-' :: rest => (true, rest)
    | '+' :: rest => (false, rest)
    | _ => (false, str)
  let value := binaryValue (str.takeWhile fun c => c = '0' || c = '1')
  if value > 2 ^ 32 - 1 then 2 ^ 32 - 1 else if negative then u32 (-(value : Int)) else value

/-- timer_unit ? timer_unit * timer_value : -1, computed in uint32_t and stored in an int. -/
def timerSeconds (timerUnit timerValue : Nat) : Int :=
  if timerUnit ≠ 0 then signed 32 (timerUnit * timerValue : Nat) else -1

def psmParse (activeTimeStr tauExtStr : List Char) (tauLegacyStr : Option (List Char)) (psmCfg : LteLcPsmCfg) :
    Except Errno Unit × LteLcPsmCfg :=
  if activeTimeStr.length ≠ 8 ∨ tauExtStr.length ≠ 8 ∨ tauLegacyStr.any (fun legacy => legacy.length != 8) then
    (.error .EINVAL, psmCfg)
  else
    let unitStrLen := 3
    -- Parse T3412-extended (periodic TAU) timer
    let timerUnit := t3412ExtLookup.getD (strtoulBase2 (tauExtStr.take unitStrLen)) 0
    let timerValue := strtoulBase2 (tauExtStr.drop unitStrLen)
    let psmCfg := { psmCfg with tau := timerSeconds timerUnit timerValue }
    -- with T3412-extended disabled, the periodic TAU comes from the legacy T3412 timer, if given
    let legacy : Except Errno LteLcPsmCfg :=
      match tauLegacyStr with
      | some tauLegacyStr =>
        if psmCfg.tau = -1 then
          let timerUnit := t3412Lookup.getD (strtoulBase2 (tauLegacyStr.take unitStrLen)) 0
          if timerUnit = 0 then .error .EINVAL
          else .ok { psmCfg with tau := signed 32 (timerUnit * strtoulBase2 (tauLegacyStr.drop unitStrLen) : Nat) }
        else .ok psmCfg
      | none => .ok psmCfg
    match legacy with
    | .error err => (.error err, psmCfg)
    | .ok psmCfg =>
      -- Parse active time
      let timerUnit := t3324Lookup.getD (strtoulBase2 (activeTimeStr.take unitStrLen)) 0
      let timerValue := strtoulBase2 (activeTimeStr.drop unitStrLen)
      (.ok (), { psmCfg with activeTime := timerSeconds timerUnit timerValue })

/-! What the encoding is for: the least timer reading that does not cut the requested time short. -/

def timerReadingsAtLeast (units : List Nat) (valueMax requested : Nat) : Set Nat :=
  {reading | requested ≤ reading ∧ ∃ unit ∈ units, ∃ value ≤ valueMax, reading = unit * value}

end LteLc
