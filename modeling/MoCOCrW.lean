import MoCOCrW.CheckedCall
import MoCOCrW.MachineInt
import MoCOCrW.Asn1Time
import MoCOCrW.TimePoint
import MoCOCrW.BigNum
import MoCOCrW.X509
import MoCOCrW.X509Name
import MoCOCrW.X509Calls
import MoCOCrW.HsmEngine
import MoCOCrW.EngineSession
import MoCOCrW.ErrorQueue
import MoCOCrW.Bio
import MoCOCrW.Ownership
import MoCOCrW.X509NameBuild
import MoCOCrW.ErrorPaths
import MoCOCrW.MacSession
