/-!
# AutoMlos.SystemErrors

The error values every module returns (`lib/safety/system_errors.h`,
`lib/safety/system_errors.c`).

`system_error_t` is modelled by the fields `system_error_create` sets from
its arguments; the others are zero in every error it builds and nothing
reads them.  The global copy of the last error is write-only and left out.
-/

namespace AutoMlos

/-- `error_category_t`. -/
inductive ErrorCategory where
  | success
  | safety
  | system
  | module
  | resource
  | communication
  | count
  deriving DecidableEq, Repr

/-- `error_severity_t`. -/
inductive ErrorSeverity where
  | none
  | low
  | warning
  | medium
  | high
  | critical
  | count
  deriving DecidableEq, Repr

/-! ## error codes -/

def errBaseOk : UInt32 := 0
def errBaseNullPtr : UInt32 := 0x1000
def errBaseBufEmpty : UInt32 := 0x1002
def errBaseIndexOob : UInt32 := 0x1003
def errBaseDataCorrupt : UInt32 := 0x1004
def errBaseTimeout : UInt32 := 0x1006
def errBaseInvalidSize : UInt32 := 0x100A

def errSysOk : UInt32 := 0
def errSysNotInit : UInt32 := 0x2000
def errSysAlreadyInit : UInt32 := 0x2001
def errSysInvalidParam : UInt32 := 0x2002
def errSysResourceUnavail : UInt32 := 0x2003
def errSysConfigError : UInt32 := 0x2005
def errSysServiceNotFound : UInt32 := 0x2006
def errSysServiceRegFailed : UInt32 := 0x2007
def errSysNotInitialized : UInt32 := 0x2009

def errSafeCriticalNull : UInt32 := 0x3000

/-! ## module identifiers -/

def moduleIdSyscall : UInt16 := 0x0000
def moduleIdLogging : UInt16 := 0x1000
def moduleIdIpc : UInt16 := 0x4000
def moduleIdHwTimer : UInt16 := 0x6000
def moduleIdHwWatchdog : UInt16 := 0x7000
def moduleIdInterrupt : UInt16 := 0x8000
def moduleIdMemory : UInt16 := 0x9000

/-- `MODULE_ERR_CODE`. -/
def moduleErrCode (moduleId : UInt16) (errNum : UInt32) : UInt32 :=
  (moduleId.toUInt32 <<< 16) ||| errNum

def errModMemOutOfMemory : UInt32 := moduleErrCode moduleIdMemory 0x01

/-! ## errors -/

/-- `system_error_t`. -/
structure SystemError where
  errorCode : UInt32
  category : ErrorCategory
  severity : ErrorSeverity
  moduleId : UInt16
  deriving DecidableEq, Repr

/-- `system_error_create`. -/
def systemErrorCreate (errorCode : UInt32) (category : ErrorCategory) (severity : ErrorSeverity)
    (moduleId : UInt16) : SystemError :=
  { errorCode, category, severity, moduleId }

/-- `system_error_is_critical`: a severity or category out of range, a
severity of at least `HIGH`, or a safety error of at least `MEDIUM`. -/
def systemErrorIsCritical (error : SystemError) : Bool :=
  if error.severity.ctorIdx ≥ ErrorSeverity.count.ctorIdx then true
  else if error.category.ctorIdx ≥ ErrorCategory.count.ctorIdx then true
  else if error.severity.ctorIdx ≥ ErrorSeverity.high.ctorIdx then true
  else if error.category = .safety ∧ error.severity.ctorIdx ≥ ErrorSeverity.medium.ctorIdx then true
  else false

end AutoMlos
