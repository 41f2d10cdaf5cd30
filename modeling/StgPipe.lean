import StgPipe.Memory
import StgPipe.Protocol
import StgPipe.Oracle
import StgPipe.Discrimination
import StgPipe.Open
import StgPipe.Transact
import StgPipe.Workload
import StgPipe.OpKinds
import StgPipe.Run
import StgPipe.Sequential
import StgPipe.Frames
import StgPipe.Correlation
import StgPipe.IdealStore
import StgPipe.IdealRun
import StgPipe.Sent
import StgPipe.Random
import StgPipe.DataBuffer
import StgPipe.Verdict
